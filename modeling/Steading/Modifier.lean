import Steading.Json.Decode
import Steading.Validation

/-!
# Modifiers

A modifier sets one rule of a world to one of the rule's values. A request gives a list of them, in
the order they are handed to the game, each key at most once.
-/

namespace Steading

/-- A modifier as a request gives it, unchecked. -/
structure ModifierInput where
  key : String
  value : String
  deriving DecidableEq, Inhabited

structure Modifier where
  key : ModifierKey
  value : String
  deriving DecidableEq, Inhabited

def ModifierKey.parse (text : String) : Except ValidationError ModifierKey :=
  match ofName? (modifierWord text) with
  | some k => .ok k
  | none => .error (.unknownModifier text)

namespace Modifier

/-- A value of the key's domain, written as the domain writes it. -/
def parse (key value : String) : Except ValidationError Modifier :=
  match ModifierKey.parse key with
  | .error e => .error e
  | .ok k =>
    if modifierWord value ∈ k.allowed then .ok ⟨k, modifierWord value⟩
    else .error (.modifierValue k value)

/-- Parses the rest of a list behind the modifiers `done`, which it repeats none of. -/
def parseAfter (done : List Modifier) : List ModifierInput → Except ValidationError (List Modifier)
  | [] => .ok []
  | m :: ms =>
    match parse m.key m.value with
    | .error e => .error e
    | .ok p =>
      if done.any (·.key == p.key) then .error (.duplicateModifier p.key)
      else
        match parseAfter (done ++ [p]) ms with
        | .error e => .error e
        | .ok ps => .ok (p :: ps)

/-- The first entry that is no modifier or repeats a key decides the error. -/
def parseAll (ms : List ModifierInput) : Except ValidationError (List Modifier) :=
  parseAfter [] ms

end Modifier

open Json

def ModifierKey.toJson (k : ModifierKey) : Json :=
  .str k.name

def ModifierKey.ofJson? (j : Json) : Option ModifierKey :=
  (name? j).bind ofName?

def ModifierInput.toJson (m : ModifierInput) : Json :=
  .obj [("key", .str m.key), ("value", .str m.value)]

def ModifierInput.ofJson? (j : Json) : Option ModifierInput :=
  match slots ["key", "value"] j with
  | some [key, value] => do
    return ⟨← key.required str?, ← value.required str?⟩
  | _ => none

def Modifier.toJson (m : Modifier) : Json :=
  .obj [("key", m.key.toJson), ("value", .str m.value)]

/-- A stored value is taken as it is, without asking whether its key allows it. -/
def Modifier.ofJson? (j : Json) : Option Modifier :=
  match slots ["key", "value"] j with
  | some [key, value] => do
    return ⟨← key.required ModifierKey.ofJson?, ← value.required str?⟩
  | _ => none

end Steading
