import Steading.Text.Blank

/-!
# Modifier keys

The rules of a world that a modifier may override, and the values each of them takes.
-/

namespace Steading

inductive ModifierKey
  | combat
  | deathPenalty
  | resources
  | raids
  | portals
  deriving DecidableEq, Inhabited

namespace ModifierKey

def all : List ModifierKey :=
  [combat, deathPenalty, resources, raids, portals]

def name : ModifierKey → String
  | combat => "combat"
  | deathPenalty => "deathpenalty"
  | resources => "resources"
  | raids => "raids"
  | portals => "portals"

def allowed : ModifierKey → List String
  | combat => ["veryeasy", "easy", "hard", "veryhard"]
  | deathPenalty => ["casual", "veryeasy", "easy", "hard", "hardcore"]
  | resources => ["muchless", "less", "more", "muchmore", "most"]
  | raids => ["none", "muchless", "less", "more", "muchmore"]
  | portals => ["casual", "hard", "veryhard"]

/-- The key of exactly this name. -/
def ofName? (s : String) : Option ModifierKey :=
  all.find? (·.name == s)

theorem ofName?_name (k : ModifierKey) : ofName? k.name = some k := by
  cases k <;> decide

end ModifierKey

/-- How keys and values are compared: without the blanks around them, capitals as small letters. -/
def modifierWord (s : String) : String :=
  Text.lower (Text.trim s)

end Steading
