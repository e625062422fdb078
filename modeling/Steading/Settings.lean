import Steading.Manifest.Config
import Steading.Settle
import Steading.Text.Blank

/-!
# Settings

What the environment says about a run. Blanks around a value do not count, and a value that is
nothing else counts as unset; a number that cannot be read is passed over for its default.
-/

namespace Steading

structure Settings where
  manifests : ManifestConfig
  ingressUrl : String
  /-- The deadline of each cluster call and of the ingress lookup. -/
  callTimeout : Duration
  settle : SettlePolicy
  dbPath : Option String
  plansPath : Option String
  deriving DecidableEq, Inhabited

namespace Settings

/-- Decimal digits behind an optional plus sign. -/
def natural? (s : String) : Option Nat :=
  let digits := match s.toList with
    | '+' :: ds => ds
    | ds => ds
  if digits.isEmpty || !digits.all Char.isDigit then none
  else some (digits.foldl (fun n d => n * 10 + (d.toNat - '0'.toNat)) 0)

def uint64? (s : String) : Option UInt64 :=
  match natural? s with
  | some n => if n < 0x10000000000000000 then some (UInt64.ofNat n) else none
  | none => none

section

variable (get : String → Option String)

def text (key : String) : Option String :=
  match (get key).map Text.trim with
  | some "" => none
  | v => v

def number (key : String) (default : UInt64) : UInt64 :=
  ((text get key).bind uint64?).getD default

/-- No pause is empty: the first one lasts at least a millisecond. -/
def backoff : Duration :=
  .ofMillis (max (number get "LONGHALL_SETTLE_BACKOFF_MS" 250) 1)

def volumeGi : UInt32 :=
  let n := number get "LONGHALL_VOLUME_GI" 10
  if n < 0x100000000 then n.toUInt32 else 10

/-- The variables that settings are read from. -/
def keys : List String :=
  ["LONGHALL_NAMESPACE", "LONGHALL_SERVER_IMAGE", "LONGHALL_SIDECAR_IMAGE",
    "LONGHALL_STORAGE_CLASS", "LONGHALL_VOLUME_GI", "LONGHALL_INGRESS_URL",
    "LONGHALL_CALL_TIMEOUT_SECS", "LONGHALL_SETTLE_TIMEOUT_SECS", "LONGHALL_SETTLE_BACKOFF_MS",
    "LONGHALL_DB_PATH", "LONGHALL_PLANS"]

def fromLookup : Settings where
  manifests := {
    ns := (text get "LONGHALL_NAMESPACE").getD "longhall"
    serverImage :=
      (text get "LONGHALL_SERVER_IMAGE").getD "ghcr.io/longhall/valheim-server:latest"
    sidecarImage := (text get "LONGHALL_SIDECAR_IMAGE").getD "busybox:1.36"
    storageClass := text get "LONGHALL_STORAGE_CLASS"
    volumeGi := volumeGi get }
  ingressUrl := (text get "LONGHALL_INGRESS_URL").getD "https://api.ipify.org"
  callTimeout := .ofSecs (max (number get "LONGHALL_CALL_TIMEOUT_SECS" 30) 1)
  settle := {
    timeout := .ofSecs (number get "LONGHALL_SETTLE_TIMEOUT_SECS" 60)
    initialBackoff := backoff get
    maxBackoff := max SettlePolicy.default.maxBackoff (backoff get) }
  dbPath := text get "LONGHALL_DB_PATH"
  plansPath := text get "LONGHALL_PLANS"

end

open Json

def fields : List String :=
  ["manifests", "ingress_url", "call_timeout", "settle", "db_path", "plans_path"]

def toJson (s : Settings) : Json :=
  .obj [("manifests", s.manifests.toJson), ("ingress_url", .str s.ingressUrl),
    ("call_timeout", s.callTimeout.toJson), ("settle", s.settle.toJson),
    ("db_path", ofOption .str s.dbPath), ("plans_path", ofOption .str s.plansPath)]

def ofJson? (j : Json) : Option Settings :=
  match slots fields j with
  | some [manifests, url, timeout, settle, db, plans] => do
    return ⟨← manifests.required ManifestConfig.ofJson?, ← url.required str?,
      ← timeout.required Duration.ofJson?, ← settle.required SettlePolicy.ofJson?,
      ← db.nullable str?, ← plans.nullable str?⟩
  | _ => none

end Settings

end Steading
