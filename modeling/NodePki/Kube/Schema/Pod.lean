import NodePki.Kube.Schema.Volume

/-!
# Schemas of pods

What a pod is asked to be, where it may run, and what is seen of it.
-/

namespace NodePki.Kube.Schema

/-- A choice of nodes. -/
def nodeSelectorTerm : List (String × Schema) := [
  ("matchExpressions", objects requirement), ("matchFields", objects requirement)]

/-- A choice of other pods near which a pod may run. -/
def podAffinityTerm : List (String × Schema) := [
  ("labelSelector", labelSelector), ("matchLabelKeys", texts), ("mismatchLabelKeys", texts),
  ("namespaceSelector", labelSelector), ("namespaces", texts), ("topologyKey", text)]

/-- What a pod would like and what it needs. -/
def preferences (preferred required : Schema) : Schema := object [
  ("preferredDuringSchedulingIgnoredDuringExecution", preferred),
  ("requiredDuringSchedulingIgnoredDuringExecution", required)]

/-- Which pods should be near or far. -/
def podAffinity : Schema :=
  preferences
    (objects [("podAffinityTerm", object podAffinityTerm), ("weight", int32)])
    (objects podAffinityTerm)

/-- Where a pod may run. -/
def affinity : Schema := object [
  ("nodeAffinity", preferences
    (objects [("preference", object nodeSelectorTerm), ("weight", int32)])
    (object [("nodeSelectorTerms", objects nodeSelectorTerm)])),
  ("podAffinity", podAffinity), ("podAntiAffinity", podAffinity)]

/-- How a pod looks up names. -/
def podDns : Schema := object [
  ("nameservers", texts), ("options", objects namedValue), ("searches", texts)]

/-- How all containers of a pod are confined. -/
def podSecurityContext : Schema := object [
  ("appArmorProfile", confinementProfile), ("fsGroup", int64), ("fsGroupChangePolicy", text),
  ("runAsGroup", int64), ("runAsNonRoot", flag), ("runAsUser", int64),
  ("seLinuxOptions", confinementLabels), ("seccompProfile", confinementProfile),
  ("supplementalGroups", array int64), ("sysctls", objects namedValue),
  ("windowsOptions", windowsOptions)]

/-- What a pod puts up with. -/
def toleration : List (String × Schema) := [
  ("effect", text), ("key", text), ("operator", text), ("tolerationSeconds", int64),
  ("value", text)]

/-- How pods are spread. -/
def spreadConstraint : List (String × Schema) := [
  ("labelSelector", labelSelector), ("matchLabelKeys", texts), ("maxSkew", int32),
  ("minDomains", int32), ("nodeAffinityPolicy", text), ("nodeTaintsPolicy", text),
  ("topologyKey", text), ("whenUnsatisfiable", text)]

/-- What a pod is asked to be. -/
def podSpec : Schema := object [
  ("activeDeadlineSeconds", int64), ("affinity", affinity),
  ("automountServiceAccountToken", flag), ("containers", objects container), ("dnsConfig", podDns),
  ("dnsPolicy", text), ("enableServiceLinks", flag),
  ("ephemeralContainers", objects ephemeralContainer),
  ("hostAliases", objects [("hostnames", texts), ("ip", text)]), ("hostIPC", flag),
  ("hostNetwork", flag), ("hostPID", flag), ("hostUsers", flag), ("hostname", text),
  ("imagePullSecrets", array localReference), ("initContainers", objects container),
  ("nodeName", text), ("nodeSelector", textMap), ("os", object [("name", text)]),
  ("overhead", map quantity), ("preemptionPolicy", text), ("priority", int32),
  ("priorityClassName", text), ("readinessGates", objects [("conditionType", text)]),
  ("resourceClaims", objects [
    ("name", text),
    ("source", object [("resourceClaimName", text), ("resourceClaimTemplateName", text)])]),
  ("restartPolicy", text), ("runtimeClassName", text), ("schedulerName", text),
  ("schedulingGates", objects [("name", text)]), ("securityContext", podSecurityContext),
  ("serviceAccount", text), ("serviceAccountName", text), ("setHostnameAsFQDN", flag),
  ("shareProcessNamespace", flag), ("subdomain", text), ("terminationGracePeriodSeconds", int64),
  ("tolerations", objects toleration), ("topologySpreadConstraints", objects spreadConstraint),
  ("volumes", objects volume)]

/-- A condition that a pod is in. -/
def podCondition : List (String × Schema) := [
  ("lastProbeTime", time), ("lastTransitionTime", time), ("message", text), ("reason", text),
  ("status", text), ("type", text)]

/-- What is seen of a pod. -/
def podStatus : Schema := object [
  ("conditions", objects podCondition), ("containerStatuses", objects containerStatus),
  ("ephemeralContainerStatuses", objects containerStatus), ("hostIP", text),
  ("hostIPs", objects [("ip", text)]), ("initContainerStatuses", objects containerStatus),
  ("message", text), ("nominatedNodeName", text), ("phase", text), ("podIP", text),
  ("podIPs", objects [("ip", text)]), ("qosClass", text), ("reason", text), ("resize", text),
  ("resourceClaimStatuses", objects [("name", text), ("resourceClaimName", text)]),
  ("startTime", time)]

end NodePki.Kube.Schema
