import NodePki.Kube.Schema.Metadata

/-!
# Schemas of services

What a service is asked to be, and what is seen of it.
-/

namespace NodePki.Kube.Schema

/-- A port of a service. -/
def servicePort : List (String × Schema) := [
  ("appProtocol", text), ("name", text), ("nodePort", int32), ("port", int32), ("protocol", text),
  ("targetPort", intOrText)]

/-- What a service is asked to be. -/
def serviceSpec : Schema := object [
  ("allocateLoadBalancerNodePorts", flag), ("clusterIP", text), ("clusterIPs", texts),
  ("externalIPs", texts), ("externalName", text), ("externalTrafficPolicy", text),
  ("healthCheckNodePort", int32), ("internalTrafficPolicy", text), ("ipFamilies", texts),
  ("ipFamilyPolicy", text), ("loadBalancerClass", text), ("loadBalancerIP", text),
  ("loadBalancerSourceRanges", texts), ("ports", objects servicePort),
  ("publishNotReadyAddresses", flag), ("selector", textMap), ("sessionAffinity", text),
  ("sessionAffinityConfig", object [("clientIP", object [("timeoutSeconds", int32)])]),
  ("trafficDistribution", text), ("type", text)]

/-- A place where a service is reached from outside. -/
def ingress : List (String × Schema) := [
  ("hostname", text), ("ip", text), ("ipMode", text),
  ("ports", objects [("error", text), ("port", int32), ("protocol", text)])]

/-- What is seen of a service. -/
def serviceStatus : Schema := object [
  ("conditions", objects condition), ("loadBalancer", object [("ingress", objects ingress)])]

end NodePki.Kube.Schema
