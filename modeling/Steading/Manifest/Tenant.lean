import Steading.Manifest.Config
import Steading.Manifest.Object
import Steading.Tenant
import Steading.World.Launch

/-!
# A tenant's objects

The claim that holds a tenant's saved worlds, and the deployment that runs the game beside a
sidecar that follows its log. The deployment is recreated on a change, never rolled, so no two
games have one world open.
-/

namespace Steading

def gameContainer : String := "valheim"

def sidecarContainer : String := "log-tailer"

/-- Where the game keeps worlds and backups. -/
def saveDirectory : String := "/root/.config/unity3d/IronGate/Valheim"

def tenantLabel : String := "longhall.io/tenant"

def tenantLabels (t : TenantId) : Texts :=
  [("app.kubernetes.io/managed-by", "longhall"), ("app.kubernetes.io/name", "longhall"),
    (tenantLabel, t.text)]

def gibibytes (n : UInt32) : String :=
  toString n ++ "Gi"

def tenantClaim (c : ManifestConfig) (t : TenantId) : Claim where
  metadata := { name := some t.claimName, ns := some c.ns, labels := some (tenantLabels t) }
  spec := some {
    accessModes := some ["ReadWriteOnce"]
    storageClass := c.storageClass
    resources := some { requests := some [("storage", gibibytes c.volumeGi)] } }

def udpPort (name : String) (port : UInt16) : ContainerPort where
  name := some name
  port := Int32.ofNat port.toNat
  protocol := some "UDP"

/-- The port players look a game up on: the one after the game's, if there is one. -/
def queryPort (p : UInt16) : UInt16 :=
  if p = 65535 then p else p + 1

def grants (w : WorldDetails) : Texts :=
  [("cpu", toString w.cpu), ("memory", gibibytes w.memory)]

def gameServer (c : ManifestConfig) (w : WorldDetails) : Container where
  name := gameContainer
  image := some c.serverImage
  args := some [w.launchArgs]
  ports := some [udpPort "game" w.port, udpPort "query" (queryPort w.port)]
  resources := some { requests := some (grants w), limits := some (grants w) }
  mounts := some
    [{ name := "saves", path := saveDirectory }, { name := "logs", path := logDirectory }]

def logSidecar (c : ManifestConfig) : Container where
  name := sidecarContainer
  image := some c.sidecarImage
  command := some ["sh", "-c"]
  args := some ["touch \"$LOG_FILE\" && exec tail -n +1 -F \"$LOG_FILE\""]
  env := some [{ name := "LOG_FILE", value := some logFile }]
  mounts := some [{ name := "logs", path := logDirectory }]

def tenantDeployment (c : ManifestConfig) (t : TenantId) (w : WorldDetails) : Deployment where
  metadata := { name := some t.deploymentName, ns := some c.ns, labels := some (tenantLabels t) }
  spec := some {
    replicas := some 1
    selector := { matchLabels := some [(tenantLabel, t.text)] }
    strategy := some { type := some "Recreate" }
    template := {
      metadata := some { labels := some (tenantLabels t) }
      spec := some {
        containers := [gameServer c w, logSidecar c]
        dnsPolicy := some "ClusterFirstWithHostNet"
        hostNetwork := some true
        volumes := some [{ name := "saves", claim := some { claimName := t.claimName } },
          { name := "logs", emptyDir := some [] }] } } }

end Steading
