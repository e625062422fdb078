import Steading.Json.Decode

/-!
# Manifest settings

What all tenants' objects have in common.
-/

namespace Steading

structure ManifestConfig where
  ns : String
  serverImage : String
  sidecarImage : String
  storageClass : Option String
  volumeGi : UInt32
  deriving DecidableEq, Inhabited

namespace ManifestConfig

open Json

def fields : List String :=
  ["namespace", "server_image", "sidecar_image", "storage_class", "volume_gi"]

def toJson (c : ManifestConfig) : Json :=
  .obj [("namespace", .str c.ns), ("server_image", .str c.serverImage),
    ("sidecar_image", .str c.sidecarImage), ("storage_class", ofOption .str c.storageClass),
    ("volume_gi", uint32 c.volumeGi)]

def ofJson? (j : Json) : Option ManifestConfig :=
  match slots fields j with
  | some [ns, server, sidecar, storage, volume] => do
    return ⟨← ns.required str?, ← server.required str?, ← sidecar.required str?,
      ← storage.nullable str?, ← volume.required uint32?⟩
  | _ => none

end ManifestConfig

end Steading
