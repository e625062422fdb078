import Steading.Manifest.Shape.Claim

/-!
# Shapes of volumes

A volume has a name, and one member for each kind of place that its content can come from.
-/

namespace Steading.Shape

open Place

/-- A key of a collection and the file it becomes. -/
def keyToPath : Shape :=
  .record (requireds .text ["key", "path"] ++ [.optional "mode" .int32])

def fieldSelector : Shape :=
  .record [.required "fieldPath" .text, .optional "apiVersion" .text]

def resourceFieldSelector : Shape :=
  .record [.required "resource" .text, .optional "containerName" .text, .optional "divisor" .text]

/-- A file with something that the pod knows about itself. -/
def podInfoFile : Shape :=
  .record [.required "path" .text, .optional "mode" .int32,
    .optional "fieldRef" fieldSelector, .optional "resourceFieldRef" resourceFieldSelector]

/-- Some keys of a collection that goes by a member of the given name. -/
def keysOf (nameMember : String) (more : List Place) : Shape :=
  .record ([.optional "items" (.list keyToPath), .optional nameMember .text,
    .optional "optional" .flag] ++ more)

def defaultMode : List Place :=
  [.optional "defaultMode" .int32]

def projection : Shape :=
  .record [
    .optional "clusterTrustBundle" (.record [.required "path" .text,
      .optional "labelSelector" labelSelector, .optional "name" .text, .optional "optional" .flag,
      .optional "signerName" .text]),
    .optional "configMap" (keysOf "name" []),
    .optional "downwardAPI" (.record [.optional "items" (.list podInfoFile)]),
    .optional "secret" (keysOf "name" []),
    .optional "serviceAccountToken" (.record [.required "path" .text, .optional "audience" .text,
      .optional "expirationSeconds" .int64])]

/-- A place that is described by texts alone, but for being read only or not. -/
def textSource (needed more : List String) : List Place :=
  requireds .text needed ++ optionals .text more ++ [.optional "readOnly" .flag]

def secretReference : List Place :=
  [.optional "secretRef" localReference]

/-- Places on disks and in services of providers. -/
def providerSources : List Place := [
  .optional "awsElasticBlockStore" (.record
    (textSource ["volumeID"] ["fsType"] ++ [.optional "partition" .int32])),
  .optional "azureDisk" (.record
    (textSource ["diskName", "diskURI"] ["cachingMode", "fsType", "kind"])),
  .optional "azureFile" (.record (textSource ["secretName", "shareName"] [])),
  .optional "flocker" (.record (optionals .text ["datasetName", "datasetUUID"])),
  .optional "gcePersistentDisk" (.record
    (textSource ["pdName"] ["fsType"] ++ [.optional "partition" .int32])),
  .optional "photonPersistentDisk" (.record
    [.required "pdID" .text, .optional "fsType" .text]),
  .optional "portworxVolume" (.record (textSource ["volumeID"] ["fsType"])),
  .optional "quobyte" (.record (textSource ["registry", "volume"] ["group", "tenant", "user"])),
  .optional "scaleIO" (.record (textSource ["gateway", "system"]
      ["fsType", "protectionDomain", "storageMode", "storagePool", "volumeName"] ++
    [.required "secretRef" localReference, .optional "sslEnabled" .flag])),
  .optional "storageos" (.record
    (textSource [] ["fsType", "volumeName", "volumeNamespace"] ++ secretReference)),
  .optional "vsphereVolume" (.record (requireds .text ["volumePath"] ++
    optionals .text ["fsType", "storagePolicyID", "storagePolicyName"]))]

/-- Places on the network. -/
def networkSources : List Place := [
  .optional "cephfs" (.record
    (textSource [] ["path", "secretFile", "user"] ++ secretReference ++
      [.required "monitors" texts])),
  .optional "cinder" (.record (textSource ["volumeID"] ["fsType"] ++ secretReference)),
  .optional "fc" (.record (textSource [] ["fsType"] ++
    [.optional "lun" .int32, .optional "targetWWNs" texts, .optional "wwids" texts])),
  .optional "gitRepo" (.record
    [.required "repository" .text, .optional "directory" .text, .optional "revision" .text]),
  .optional "glusterfs" (.record (textSource ["endpoints", "path"] [])),
  .optional "iscsi" (.record (textSource ["iqn", "targetPortal"]
      ["fsType", "initiatorName", "iscsiInterface"] ++ secretReference ++
    optionals .flag ["chapAuthDiscovery", "chapAuthSession"] ++
    [.required "lun" .int32, .optional "portals" texts])),
  .optional "nfs" (.record (textSource ["path", "server"] [])),
  .optional "rbd" (.record
    (textSource ["image"] ["fsType", "keyring", "pool", "user"] ++ secretReference ++
      [.required "monitors" texts]))]

/-- Places with the node and in the cluster. -/
def clusterSources : List Place := [
  .optional "configMap" (keysOf "name" defaultMode),
  .optional "csi" (.record (textSource ["driver"] ["fsType"] ++
    [.optional "nodePublishSecretRef" localReference, .optional "volumeAttributes" textMap])),
  .optional "downwardAPI" (.record
    ([.optional "items" (.list podInfoFile)] ++ defaultMode)),
  .optional "emptyDir" (.record (optionals .text ["medium", "sizeLimit"])),
  .optional "ephemeral" (.record [.optional "volumeClaimTemplate" claimTemplate]),
  .optional "flexVolume" (.record
    (textSource ["driver"] ["fsType"] ++ secretReference ++ [.optional "options" textMap])),
  .optional "hostPath" (.record [.required "path" .text, .optional "type" .text]),
  .optional "persistentVolumeClaim" (.record (textSource ["claimName"] [])),
  .optional "projected" (.record ([.optional "sources" (.list projection)] ++ defaultMode)),
  .optional "secret" (keysOf "secretName" defaultMode)]

def volume : Shape :=
  .record ([.required "name" .text] ++ providerSources ++ networkSources ++ clusterSources)

end Steading.Shape
