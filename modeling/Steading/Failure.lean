import Steading.Json.Decode
import Steading.Validation

/-!
# Failures

Why an operation was refused or broke off, in a form that can be handed on: a kind, and a text for
people to read.
-/

namespace Steading

inductive Failure
  | validation (text : String)
  | precondition (text : String)
  | notFound (text : String)
  | cluster (text : String)
  | persistence (text : String)
  | internal (text : String)
  deriving DecidableEq, Inhabited

namespace Failure

def text : Failure → String
  | validation s | precondition s | notFound s | cluster s | persistence s | internal s => s

/-- The kind as it begins a message. -/
def label : Failure → String
  | validation _ => "validation"
  | precondition _ => "precondition"
  | notFound _ => "not_found"
  | cluster _ => "cluster"
  | persistence _ => "persistence"
  | internal _ => "internal"

/-- The kind as it tags a failure that is handed on. -/
def tag : Failure → String
  | validation _ => "Validation"
  | precondition _ => "Precondition"
  | notFound _ => "NotFound"
  | cluster _ => "Cluster"
  | persistence _ => "Persistence"
  | internal _ => "Internal"

def message (f : Failure) : String :=
  f.label ++ ": " ++ f.text

def ofValidation (e : ValidationError) : Failure :=
  validation e.message

def ofTag? (tag text : String) : Option Failure :=
  match tag with
  | "Validation" => some (validation text)
  | "Precondition" => some (precondition text)
  | "NotFound" => some (notFound text)
  | "Cluster" => some (cluster text)
  | "Persistence" => some (persistence text)
  | "Internal" => some (internal text)
  | _ => none

theorem ofTag?_tag (f : Failure) : ofTag? f.tag f.text = some f := by
  cases f <;> rfl

def toJson (f : Failure) : Json :=
  .obj [(f.tag, .str f.text)]

def ofJson? : Json → Option Failure
  | .obj [(tag, .str text)] => ofTag? tag text
  | _ => none

end Failure

end Steading
