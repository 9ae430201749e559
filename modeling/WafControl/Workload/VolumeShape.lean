import WafControl.Json.Shape

/-!
# The shape of volumes

What a pod's document says about the volumes of the pod. There are many kinds of them, most of which
are known only to some clusters. A volume may be made for the pod, and is then described like an
object of its own.
-/

namespace WafControl.Shape

/-- What every object of the cluster says about itself. -/
def objectMetadata : Shape :=
  record (texts ["generateName", "name", "namespace", "resourceVersion", "selfLink", "uid"] ++
    wholes 64 ["deletionGracePeriodSeconds", "generation"] ++
    [("annotations", dictionary text), ("creationTimestamp", time), ("deletionTimestamp", time),
      ("finalizers", list text), ("labels", dictionary text),
      ("managedFields", list (record (texts ["apiVersion", "fieldsType", "manager", "operation",
        "subresource"] ++ [("fieldsV1", any), ("time", time)]))),
      ("ownerReferences", list (record (texts ["apiVersion", "kind", "name", "uid"] ++
        flags ["blockOwnerDeletion", "controller"])))])

/-- Objects, by their labels. -/
def labelSelector : Shape :=
  record [("matchExpressions", list (record [("key", text), ("operator", text),
    ("values", list text)])), ("matchLabels", dictionary text)]

def fieldRef : Shape := record (texts ["apiVersion", "fieldPath"])

/-- An amount of a resource of a container. -/
def resourceFieldRef : Shape := record (texts ["containerName", "divisor", "resource"])

/-- Files that are made of entries. -/
def entryFiles : Shape := list (record [("key", text), ("mode", whole 32), ("path", text)])

/-- Files that are made of what is known about the pod. -/
def podFiles : Shape :=
  list (record [("fieldRef", fieldRef), ("mode", whole 32), ("path", text),
    ("resourceFieldRef", resourceFieldRef)])

/-- A source of a volume that joins several. -/
def projection : Shape :=
  let entries := record [("items", entryFiles), ("name", text), ("optional", flag)]
  record [
    ("clusterTrustBundle", record (texts ["name", "path", "signerName"] ++
      [("labelSelector", labelSelector), ("optional", flag)])),
    ("configMap", entries), ("downwardAPI", record [("items", podFiles)]), ("secret", entries),
    ("serviceAccountToken", record [("audience", text), ("expirationSeconds", whole 64),
      ("path", text)])]

/-- What is wanted of a volume that is made for the pod. -/
def volumeClaim : Shape :=
  record (texts ["storageClassName", "volumeAttributesClassName", "volumeMode", "volumeName"] ++
    [("accessModes", list text), ("dataSource", record (texts ["apiGroup", "kind", "name"])),
      ("dataSourceRef", record (texts ["apiGroup", "kind", "name", "namespace"])),
      ("resources", record [("limits", dictionary text), ("requests", dictionary text)]),
      ("selector", labelSelector)])

/-- A kind of volume that is described by texts, flags, and what else there is. -/
def source (named flagged : List String) (others : List (String × Shape)) : Shape :=
  record (texts named ++ flags flagged ++ others)

def secretRef : Shape := record [("name", text)]

/-- Kinds of volumes that are disks and shares of the node or of the network. -/
def networkVolumes : List (String × Shape) :=
  let secret := ("secretRef", secretRef)
  [("cephfs", source ["path", "secretFile", "user"] ["readOnly"]
      [("monitors", list text), secret]),
    ("cinder", source ["fsType", "volumeID"] ["readOnly"] [secret]),
    ("fc", source ["fsType"] ["readOnly"]
      [("lun", whole 32), ("targetWWNs", list text), ("wwids", list text)]),
    ("flocker", source ["datasetName", "datasetUUID"] [] []),
    ("glusterfs", source ["endpoints", "path"] ["readOnly"] []),
    ("hostPath", source ["path", "type"] [] []),
    ("iscsi", source ["fsType", "initiatorName", "iqn", "iscsiInterface", "targetPortal"]
      ["chapAuthDiscovery", "chapAuthSession", "readOnly"]
      [("lun", whole 32), ("portals", list text), secret]),
    ("nfs", source ["path", "server"] ["readOnly"] []),
    ("quobyte", source ["group", "registry", "tenant", "user", "volume"] ["readOnly"] []),
    ("rbd", source ["fsType", "image", "keyring", "pool", "user"] ["readOnly"]
      [("monitors", list text), secret]),
    ("scaleIO", source ["fsType", "gateway", "protectionDomain", "storageMode", "storagePool",
      "system", "volumeName"] ["readOnly", "sslEnabled"] [secret]),
    ("storageos", source ["fsType", "volumeName", "volumeNamespace"] ["readOnly"] [secret])]

/-- Kinds of volumes that clouds and drivers provide. -/
def providedVolumes : List (String × Shape) :=
  [("awsElasticBlockStore", source ["fsType", "volumeID"] ["readOnly"] [("partition", whole 32)]),
    ("azureDisk", source ["cachingMode", "diskName", "diskURI", "fsType", "kind"] ["readOnly"] []),
    ("azureFile", source ["secretName", "shareName"] ["readOnly"] []),
    ("csi", source ["driver", "fsType"] ["readOnly"]
      [("nodePublishSecretRef", secretRef), ("volumeAttributes", dictionary text)]),
    ("flexVolume", source ["driver", "fsType"] ["readOnly"]
      [("options", dictionary text), ("secretRef", secretRef)]),
    ("gcePersistentDisk", source ["fsType", "pdName"] ["readOnly"] [("partition", whole 32)]),
    ("photonPersistentDisk", source ["fsType", "pdID"] [] []),
    ("portworxVolume", source ["fsType", "volumeID"] ["readOnly"] []),
    ("vsphereVolume", source ["fsType", "storagePolicyID", "storagePolicyName", "volumePath"]
      [] [])]

/-- Kinds of volumes that the cluster itself fills. -/
def clusterVolumes : List (String × Shape) :=
  let mode := ("defaultMode", whole 32)
  [("configMap", source ["name"] ["optional"] [mode, ("items", entryFiles)]),
    ("downwardAPI", record [mode, ("items", podFiles)]),
    ("emptyDir", source ["medium", "sizeLimit"] [] []),
    ("ephemeral", record [("volumeClaimTemplate",
      record [("metadata", objectMetadata), ("spec", volumeClaim)])]),
    ("gitRepo", source ["directory", "repository", "revision"] [] []),
    ("image", source ["pullPolicy", "reference"] [] []),
    ("persistentVolumeClaim", source ["claimName"] ["readOnly"] []),
    ("projected", record [mode, ("sources", list projection)]),
    ("secret", source ["secretName"] ["optional"] [mode, ("items", entryFiles)])]

def volume : Shape :=
  record (("name", text) :: (networkVolumes ++ providedVolumes ++ clusterVolumes))

end WafControl.Shape
