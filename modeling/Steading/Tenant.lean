import Steading.Json.Decode
import Steading.Validation

/-!
# Tenants

A tenant's id is a DNS label short enough to be part of the names of the tenant's objects in the
cluster.
-/

namespace Steading

def isLowerAlnum (c : Char) : Bool :=
  c.isLower || c.isDigit

/-- Small letters, digits and hyphens, with no hyphen at either end. These are the texts of the
pattern `^[a-z0-9]([-a-z0-9]*[a-z0-9])?$`, as `mem_labelPattern_iff` in `Proofs/Labels` says. -/
def isLabel (cs : List Char) : Bool :=
  cs.all (fun c => isLowerAlnum c || c == '-') &&
    cs.head?.any isLowerAlnum && cs.getLast?.any isLowerAlnum

structure TenantId where
  text : String
  short : text.utf8ByteSize ≤ 40
  label : isLabel text.toList = true
  deriving DecidableEq

namespace TenantId

/-- The length is counted in bytes, and a wrong length is reported before a wrong form, the form
being that of the pattern beside `isLabel`. -/
def parse (raw : String) : Except ValidationError TenantId :=
  if h : 0 < raw.utf8ByteSize ∧ raw.utf8ByteSize ≤ 40 then
    if hl : isLabel raw.toList = true then .ok ⟨raw, h.2, hl⟩
    else .error .tenantLabel
  else .error .tenantLength

def deploymentName (t : TenantId) : String :=
  "valheim-" ++ t.text

def claimName (t : TenantId) : String :=
  "valheim-" ++ t.text ++ "-data"

instance : Inhabited TenantId :=
  ⟨⟨"a", by decide, by decide⟩⟩

end TenantId

/-- Who asks for an operation: the tenant, and the subscription that says what it may use. -/
structure Tenant where
  id : TenantId
  subscription : String
  deriving DecidableEq, Inhabited

open Json

def TenantId.toJson (t : TenantId) : Json :=
  .str t.text

def TenantId.ofJson? (j : Json) : Option TenantId := do
  match parse (← str? j) with
  | .ok t => some t
  | .error _ => none

def Tenant.toJson (t : Tenant) : Json :=
  .obj [("id", t.id.toJson), ("subscription", .str t.subscription)]

def Tenant.ofJson? (j : Json) : Option Tenant :=
  match slots ["id", "subscription"] j with
  | some [id, subscription] => do
    return ⟨← id.required TenantId.ofJson?, ← subscription.required str?⟩
  | _ => none

end Steading
