import Steading.Json.Decode

/-!
# Durations

Lengths of time in whole nanoseconds, up to the largest number of seconds that 64 bits hold and a
fraction.
-/

namespace Steading

/-- One nanosecond more than the longest duration. -/
def Duration.bound : Nat :=
  0x10000000000000000 * 1000000000

structure Duration where
  nanos : Nat
  lt_bound : nanos < Duration.bound
  deriving DecidableEq

namespace Duration

/-- A duration of a number of nanoseconds, cut at the longest one. -/
def ofNanos (n : Nat) : Duration :=
  ⟨min n (bound - 1), by simp only [bound]; omega⟩

def ofMillis (n : UInt64) : Duration :=
  ofNanos (n.toNat * 1000000)

def ofSecs (n : UInt64) : Duration :=
  ofNanos (n.toNat * 1000000000)

instance : Inhabited Duration :=
  ⟨ofNanos 0⟩

def secs (d : Duration) : Nat :=
  d.nanos / 1000000000

def millis (d : Duration) : Nat :=
  d.nanos / 1000000

def subsecNanos (d : Duration) : Nat :=
  d.nanos % 1000000000

/-- Twice the duration, or the longest there is. -/
def double (d : Duration) : Duration :=
  ofNanos (2 * d.nanos)

instance : LE Duration :=
  ⟨fun a b => a.nanos ≤ b.nanos⟩

instance (a b : Duration) : Decidable (a ≤ b) :=
  inferInstanceAs (Decidable (a.nanos ≤ b.nanos))

instance : Min Duration :=
  ⟨fun a b => if a ≤ b then a else b⟩

instance : Max Duration :=
  ⟨fun a b => if a ≤ b then b else a⟩

open Json

def toJson (d : Duration) : Json :=
  .obj [("secs", nat d.secs), ("nanos", nat d.subsecNanos)]

/-- The seconds and nanoseconds of a duration; a second or more of nanoseconds is carried over. -/
def ofParts? (secs nanos : Nat) : Option Duration :=
  if h : secs * 1000000000 + nanos < bound then some ⟨secs * 1000000000 + nanos, h⟩ else none

def fields : List String :=
  ["secs", "nanos"]

/-- Other than a record, a duration has no members of other names. -/
def closed : Json → Bool
  | .obj ms => ms.all fun m => fields.contains m.1
  | _ => true

def ofJson? (j : Json) : Option Duration :=
  match slots fields j with
  | some [secs, nanos] => do
    if closed j then
      ofParts? (← secs.required (below? 0x10000000000000000))
        (← nanos.required (below? 0x100000000))
    else none
  | _ => none

end Duration

end Steading
