import Steading.Cluster
import Steading.Json.Reader
import Steading.Manifest.Encode
import Steading.Text.Quoted

/-!
# Replies of the cluster

What the body of a reply means. A call that failed is answered with a description of the failure,
or with something else that is then quoted; a call that went through is answered with the object it
was about, and a removal perhaps with a verdict on the call instead.
-/

namespace Steading

open Json

/-- How the cluster describes a failure: a code of its own and a text. -/
structure HttpFailure where
  code : UInt16
  text : String
  deriving DecidableEq

namespace HttpFailure

def ofJson? (j : Json) : Option HttpFailure :=
  match slots ["status", "message", "reason", "code"] j with
  | some [status, text, reason, code] => do
    let _ ← status.required str?
    let text ← text.withDefault "" str?
    let _ ← reason.withDefault "" str?
    return ⟨← code.required uint16?, text⟩
  | _ => none

/-- A body that describes nothing is quoted, under the status it came with. -/
def ofReply (status : Nat) (body : String) : HttpFailure :=
  ((Json.parse body).bind ofJson?).getD ⟨UInt16.ofNat status, Text.quoted body⟩

end HttpFailure

namespace Verdict

/-- One of several causes. -/
def isCause (j : Json) : Bool :=
  match slots ["reason", "message", "field"] j with
  | some ss => ss.all fun s => (s.withDefault "" str?).isSome
  | none => false

def hasDetails (j : Json) : Bool :=
  match slots ["name", "group", "kind", "uid", "causes", "retryAfterSeconds"] j with
  | some [name, group, kind, uid, causes, retry] =>
    [name, group, kind, uid].all (fun s => (s.withDefault "" str?).isSome) &&
      ((causes.withDefault [] (list? some)).any fun js => js.all isCause) &&
      (retry.withDefault 0 uint32?).isSome
  | _ => false

def outcome? (j : Json) : Option String :=
  (name? j).filter (["Success", "Failure"].contains ·)

/-- Whether a verdict is well formed. What it says does not matter. -/
def isWellFormed (j : Json) : Bool :=
  match slots ["status", "code", "message", "reason", "details"] j with
  | some [status, code, message, reason, details] =>
    (status.nullable outcome?).isSome && (code.withDefault 0 uint16?).isSome &&
      [message, reason].all (fun s => (s.withDefault "" str?).isSome) &&
      (details.nullable fun j => if hasDetails j then some () else none).isSome
  | _ => false

end Verdict

/-- Whether an object says that it is of a kind. -/
def isOfKind (kind : String) (j : Json) : Bool :=
  ((members? j).bind (·.lookup "kind")).any (Shape.isText kind)

/-- The answer to a removal, which has to be sound as a whole: a verdict, or the object. -/
def isRemoved (isObject : Json → Bool) (j : Json) : Bool :=
  match j.settle? deepest with
  | some settled => if isOfKind "Status" settled then Verdict.isWellFormed j else isObject j
  | none => false

def isScale (j : Json) : Bool :=
  (Shape.scale.read? deepest j).isSome

namespace ClusterCall

/-- The reply to a call that only has to be well formed. -/
def done (ok : Bool) : Option Unit :=
  if ok then some () else none

/-- What the body of a reply means, if it is what the call asked for. -/
def decode : (c : ClusterCall) → Json → Option c.Reply
  | createClaim _, j => done (Claim.ofJson? j).isSome
  | getClaim _, j => Claim.ofJson? j
  | deleteClaim _, j => done (isRemoved (fun j => (Claim.ofJson? j).isSome) j)
  | clearFinalizers _, j => done (Claim.ofJson? j).isSome
  | createDeployment _, j => done (Deployment.ofJson? j).isSome
  | getDeployment _, j => Deployment.ofJson? j
  | replaceDeployment _, j => done (Deployment.ofJson? j).isSome
  | deleteDeployment _, j => done (isRemoved (fun j => (Deployment.ofJson? j).isSome) j)
  | scaleDeployment _ _, j => done (isScale j)

end ClusterCall

end Steading
