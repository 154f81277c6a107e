import NodePki.Kube.Schema.Metadata

/-!
# Schemas of containers

The containers of a pod, how they are started, watched and confined, and the states they are in.
-/

namespace NodePki.Kube.Schema

/-- A choice of one entry of a named object. -/
def keySelector : Schema := object [("key", text), ("name", text), ("optional", flag)]

/-- A choice of a member of the object itself. -/
def fieldSelector : Schema := object [("apiVersion", text), ("fieldPath", text)]

/-- A choice of an amount that a container is given. -/
def resourceFieldSelector : Schema := object [
  ("containerName", text), ("divisor", quantity), ("resource", text)]

/-- A variable of the environment. -/
def environmentVariable : List (String × Schema) := [
  ("name", text), ("value", text),
  ("valueFrom", object [
    ("configMapKeyRef", keySelector), ("fieldRef", fieldSelector),
    ("resourceFieldRef", resourceFieldSelector), ("secretKeyRef", keySelector)])]

/-- A named object that may be missing. -/
def optionalReference : Schema := object [("name", text), ("optional", flag)]

/-- Variables that are taken from an object. -/
def environmentSource : List (String × Schema) := [
  ("configMapRef", optionalReference), ("prefix", text), ("secretRef", optionalReference)]

/-- A command to run. -/
def execAction : Schema := object [("command", texts)]

/-- A page to ask for. -/
def httpAction : Schema := object [
  ("host", text), ("httpHeaders", objects namedValue), ("path", text), ("port", intOrText),
  ("scheme", text)]

/-- A connection to open. -/
def tcpAction : Schema := object [("host", text), ("port", intOrText)]

/-- What is done at the start or the end of a container. -/
def lifecycleHandler : Schema := object [
  ("exec", execAction), ("httpGet", httpAction), ("sleep", object [("seconds", int64)]),
  ("tcpSocket", tcpAction)]

/-- How the health of a container is looked after. -/
def probe : Schema := object [
  ("exec", execAction), ("failureThreshold", int32),
  ("grpc", object [("port", int32), ("service", text)]), ("httpGet", httpAction),
  ("initialDelaySeconds", int32), ("periodSeconds", int32), ("successThreshold", int32),
  ("tcpSocket", tcpAction), ("terminationGracePeriodSeconds", int64), ("timeoutSeconds", int32)]

/-- A port of a container. -/
def containerPort : List (String × Schema) := [
  ("containerPort", int32), ("hostIP", text), ("hostPort", int32), ("name", text),
  ("protocol", text)]

/-- What a container asks for and may use. -/
def resources : Schema := object [
  ("claims", objects [("name", text)]), ("limits", map quantity), ("requests", map quantity)]

/-- A profile of the system that confines a container. -/
def confinementProfile : Schema := object [("localhostProfile", text), ("type", text)]

/-- Labels of the system that confine a container. -/
def confinementLabels : Schema := object [
  ("level", text), ("role", text), ("type", text), ("user", text)]

/-- How containers of another system are confined. -/
def windowsOptions : Schema := object [
  ("gmsaCredentialSpec", text), ("gmsaCredentialSpecName", text), ("hostProcess", flag),
  ("runAsUserName", text)]

/-- How a container is confined. -/
def securityContext : Schema := object [
  ("allowPrivilegeEscalation", flag), ("appArmorProfile", confinementProfile),
  ("capabilities", object [("add", texts), ("drop", texts)]), ("privileged", flag),
  ("procMount", text), ("readOnlyRootFilesystem", flag), ("runAsGroup", int64),
  ("runAsNonRoot", flag), ("runAsUser", int64), ("seLinuxOptions", confinementLabels),
  ("seccompProfile", confinementProfile), ("windowsOptions", windowsOptions)]

/-- Where a volume is found in a container. -/
def volumeMount : List (String × Schema) := [
  ("mountPath", text), ("mountPropagation", text), ("name", text), ("readOnly", flag),
  ("recursiveReadOnly", text), ("subPath", text), ("subPathExpr", text)]

/-- A container. -/
def container : List (String × Schema) := [
  ("args", texts), ("command", texts), ("env", objects environmentVariable),
  ("envFrom", objects environmentSource), ("image", text), ("imagePullPolicy", text),
  ("lifecycle", object [("postStart", lifecycleHandler), ("preStop", lifecycleHandler)]),
  ("livenessProbe", probe), ("name", text), ("ports", objects containerPort),
  ("readinessProbe", probe),
  ("resizePolicy", objects [("resourceName", text), ("restartPolicy", text)]),
  ("resources", resources), ("restartPolicy", text), ("securityContext", securityContext),
  ("startupProbe", probe), ("stdin", flag), ("stdinOnce", flag), ("terminationMessagePath", text),
  ("terminationMessagePolicy", text), ("tty", flag),
  ("volumeDevices", objects [("devicePath", text), ("name", text)]),
  ("volumeMounts", objects volumeMount), ("workingDir", text)]

/-- A container that joins a running pod. -/
def ephemeralContainer : List (String × Schema) := ("targetContainerName", text) :: container

/-- The state of a container: waiting, running or ended. -/
def containerState : Schema := object [
  ("running", object [("startedAt", time)]),
  ("terminated", object [
    ("containerID", text), ("exitCode", int32), ("finishedAt", time), ("message", text),
    ("reason", text), ("signal", int32), ("startedAt", time)]),
  ("waiting", object [("message", text), ("reason", text)])]

/-- What is seen of a container. -/
def containerStatus : List (String × Schema) := [
  ("allocatedResources", map quantity), ("containerID", text), ("image", text), ("imageID", text),
  ("lastState", containerState), ("name", text), ("ready", flag), ("resources", resources),
  ("restartCount", int32), ("started", flag), ("state", containerState),
  ("volumeMounts", objects [
    ("mountPath", text), ("name", text), ("readOnly", flag), ("recursiveReadOnly", text)])]

end NodePki.Kube.Schema
