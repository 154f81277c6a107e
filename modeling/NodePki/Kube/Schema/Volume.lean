import NodePki.Kube.Schema.Container

/-!
# Schemas of volumes

The kinds of places from which a pod takes files.
-/

namespace NodePki.Kube.Schema

/-- Which entries of an object become files. -/
def keyToPath : List (String × Schema) := [("key", text), ("mode", int32), ("path", text)]

/-- Facts about the pod that become files. -/
def downwardFile : List (String × Schema) := [
  ("fieldRef", fieldSelector), ("mode", int32), ("path", text),
  ("resourceFieldRef", resourceFieldSelector)]

/-- What a claim to storage asks for. -/
def volumeClaim : Schema := object [
  ("accessModes", texts),
  ("dataSource", object [("apiGroup", text), ("kind", text), ("name", text)]),
  ("dataSourceRef", object [
    ("apiGroup", text), ("kind", text), ("name", text), ("namespace", text)]),
  ("resources", object [("limits", map quantity), ("requests", map quantity)]),
  ("selector", labelSelector), ("storageClassName", text), ("volumeAttributesClassName", text),
  ("volumeMode", text), ("volumeName", text)]

/-- One of several places that are seen as one. -/
def projection : List (String × Schema) := [
  ("clusterTrustBundle", object [
    ("labelSelector", labelSelector), ("name", text), ("optional", flag), ("path", text),
    ("signerName", text)]),
  ("configMap", object [("items", objects keyToPath), ("name", text), ("optional", flag)]),
  ("downwardAPI", object [("items", objects downwardFile)]),
  ("secret", object [("items", objects keyToPath), ("name", text), ("optional", flag)]),
  ("serviceAccountToken", object [
    ("audience", text), ("expirationSeconds", int64), ("path", text)])]

/-- Volumes made of objects of the cluster, or of the node itself. -/
def clusterVolumes : List (String × Schema) := [
  ("configMap", object [
    ("defaultMode", int32), ("items", objects keyToPath), ("name", text), ("optional", flag)]),
  ("csi", object [
    ("driver", text), ("fsType", text), ("nodePublishSecretRef", localReference),
    ("readOnly", flag), ("volumeAttributes", textMap)]),
  ("downwardAPI", object [("defaultMode", int32), ("items", objects downwardFile)]),
  ("emptyDir", object [("medium", text), ("sizeLimit", quantity)]),
  ("ephemeral", object [
    ("volumeClaimTemplate", object [("metadata", metadata), ("spec", volumeClaim)])]),
  ("hostPath", object [("path", text), ("type", text)]),
  ("persistentVolumeClaim", object [("claimName", text), ("readOnly", flag)]),
  ("projected", object [("defaultMode", int32), ("sources", objects projection)]),
  ("secret", object [
    ("defaultMode", int32), ("items", objects keyToPath), ("optional", flag),
    ("secretName", text)])]

/-- Volumes of other systems. -/
def foreignVolumes : List (String × Schema) := [
  ("awsElasticBlockStore", object [
    ("fsType", text), ("partition", int32), ("readOnly", flag), ("volumeID", text)]),
  ("azureDisk", object [
    ("cachingMode", text), ("diskName", text), ("diskURI", text), ("fsType", text), ("kind", text),
    ("readOnly", flag)]),
  ("azureFile", object [("readOnly", flag), ("secretName", text), ("shareName", text)]),
  ("cephfs", object [
    ("monitors", texts), ("path", text), ("readOnly", flag), ("secretFile", text),
    ("secretRef", localReference), ("user", text)]),
  ("cinder", object [
    ("fsType", text), ("readOnly", flag), ("secretRef", localReference), ("volumeID", text)]),
  ("fc", object [
    ("fsType", text), ("lun", int32), ("readOnly", flag), ("targetWWNs", texts),
    ("wwids", texts)]),
  ("flexVolume", object [
    ("driver", text), ("fsType", text), ("options", textMap), ("readOnly", flag),
    ("secretRef", localReference)]),
  ("flocker", object [("datasetName", text), ("datasetUUID", text)]),
  ("gcePersistentDisk", object [
    ("fsType", text), ("partition", int32), ("pdName", text), ("readOnly", flag)]),
  ("gitRepo", object [("directory", text), ("repository", text), ("revision", text)]),
  ("glusterfs", object [("endpoints", text), ("path", text), ("readOnly", flag)]),
  ("iscsi", object [
    ("chapAuthDiscovery", flag), ("chapAuthSession", flag), ("fsType", text),
    ("initiatorName", text), ("iqn", text), ("iscsiInterface", text), ("lun", int32),
    ("portals", texts), ("readOnly", flag), ("secretRef", localReference),
    ("targetPortal", text)]),
  ("nfs", object [("path", text), ("readOnly", flag), ("server", text)]),
  ("photonPersistentDisk", object [("fsType", text), ("pdID", text)]),
  ("portworxVolume", object [("fsType", text), ("readOnly", flag), ("volumeID", text)]),
  ("quobyte", object [
    ("group", text), ("readOnly", flag), ("registry", text), ("tenant", text), ("user", text),
    ("volume", text)]),
  ("rbd", object [
    ("fsType", text), ("image", text), ("keyring", text), ("monitors", texts), ("pool", text),
    ("readOnly", flag), ("secretRef", localReference), ("user", text)]),
  ("scaleIO", object [
    ("fsType", text), ("gateway", text), ("protectionDomain", text), ("readOnly", flag),
    ("secretRef", localReference), ("sslEnabled", flag), ("storageMode", text),
    ("storagePool", text), ("system", text), ("volumeName", text)]),
  ("storageos", object [
    ("fsType", text), ("readOnly", flag), ("secretRef", localReference), ("volumeName", text),
    ("volumeNamespace", text)]),
  ("vsphereVolume", object [
    ("fsType", text), ("storagePolicyID", text), ("storagePolicyName", text),
    ("volumePath", text)])]

/-- A volume of any kind. -/
def volume : List (String × Schema) := ("name", text) :: clusterVolumes ++ foreignVolumes

end NodePki.Kube.Schema
