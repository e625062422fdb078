import Steading.Duration

/-!
# Settle policies

How long, and in what pauses, the removal of a claim is waited for.
-/

namespace Steading

structure SettlePolicy where
  timeout : Duration
  initialBackoff : Duration
  maxBackoff : Duration
  deriving DecidableEq

namespace SettlePolicy

/-- A minute, in pauses from a quarter of a second up to five seconds. -/
def default : SettlePolicy where
  timeout := .ofSecs 60
  initialBackoff := .ofMillis 250
  maxBackoff := .ofSecs 5

instance : Inhabited SettlePolicy :=
  ⟨default⟩

open Json

def toJson (p : SettlePolicy) : Json :=
  .obj [("timeout", p.timeout.toJson), ("initial_backoff", p.initialBackoff.toJson),
    ("max_backoff", p.maxBackoff.toJson)]

def ofJson? (j : Json) : Option SettlePolicy :=
  match slots ["timeout", "initial_backoff", "max_backoff"] j with
  | some [timeout, initial, max] => do
    return ⟨← timeout.required Duration.ofJson?, ← initial.required Duration.ofJson?,
      ← max.required Duration.ofJson?⟩
  | _ => none

end SettlePolicy

end Steading
