import Steading.Proofs.Ceiling
import Steading.Proofs.ModifierLists

/-!
# Worlds of accepted requests

A request is accepted if none of its fields is faulty and its modifiers are
(`ServerRequest.validate_eq_ok_iff`). What such a request comes to keeps the rules for requests
whatever the plan is (`WorldDetails.sound_of_ofRequest`): its name is trimmed and goes between
quotes, its port is one that a server may have, and its modifiers can be written and read again.
-/

namespace Steading

namespace ServerRequest

theorem validate_eq_ok_iff {r : ServerRequest} {ms : List Modifier} :
    r.validate = .ok ms ↔
      (∀ f ∈ r.faults, f.1 = false) ∧ Modifier.parseAll r.modifiers = .ok ms := by
  rw [validate]
  split
  · rename_i fault hfault
    have htrue : fault.1 = true := List.find?_some hfault
    refine ⟨nofun, fun ⟨hfaults, _⟩ => ?_⟩
    rw [hfaults fault (List.mem_of_find?_eq_some hfault)] at htrue
    cases htrue
  · rename_i hnone
    have hfaults : ∀ f ∈ r.faults, f.1 = false := fun f hf =>
      Bool.eq_false_iff.2 (List.find?_eq_none.1 hnone f hf)
    exact (and_iff_right hfaults).symm

end ServerRequest

namespace WorldDetails

/-- A world that a request could ask for as it is. -/
structure Sound (w : WorldDetails) : Prop where
  trimmed : Text.trim w.name = w.name
  named : w.name ≠ ""
  unquoted : '"' ∉ w.name.toList
  world : isWorldName w.world = true
  password : ∀ c ∈ w.password.toList, c ≠ '"' ∧ Text.isBlank c = false
  port : 1024 ≤ w.port ∧ w.port ≤ 65534
  keys : (w.modifiers.map (·.key)).Nodup
  values : ∀ m ∈ w.modifiers, m.value ∈ m.key.allowed

variable {r : ServerRequest} {e : Entitlements} {id : String} {w : WorldDetails}

theorem ofRequest_eq_ok_iff :
    ofRequest r e id = .ok w ↔ ∃ ms, r.validate = .ok ms ∧ w = fill r e id ms := by
  rw [ofRequest]
  rcases r.validate with fault | ms
  · simp
  · simp [eq_comm]

theorem sound_of_ofRequest (h : ofRequest r e id = .ok w) : w.Sound := by
  obtain ⟨ms, hvalidate, rfl⟩ := ofRequest_eq_ok_iff.1 h
  obtain ⟨hfaults, hms⟩ := ServerRequest.validate_eq_ok_iff.1 hvalidate
  obtain ⟨hkeys, hvalues⟩ := Modifier.of_parseAll hms
  simp only [ServerRequest.faults, List.forall_mem_cons] at hfaults
  obtain ⟨hlength, hname, hworld, -, hpassword, -, hport, -⟩ := hfaults
  simp only [Bool.or_eq_false_iff, List.any_eq_false, Bool.not_eq_eq_eq_not, Bool.not_false,
    Bool.not_eq_true] at hlength hname hworld hpassword
  refine ⟨Text.trim_trim _, ?_, ?_, hworld, ?_, ?_, hkeys, hvalues⟩
  · intro hempty
    rw [show Text.trim r.name = "" from hempty] at hlength
    cases hlength.1
  · intro hquote
    cases (hname '"' hquote).1
  · intro c hc
    exact ⟨beq_eq_false_iff_ne.1 (hpassword c hc).1, (hpassword c hc).2⟩
  · show 1024 ≤ r.port.getD defaultPort ∧ r.port.getD defaultPort ≤ 65534
    cases hp : r.port with
    | none => decide
    | some p =>
      rw [hp] at hport
      simpa using hport

theorem instanceId_of_ofRequest (h : ofRequest r e id = .ok w) : w.instanceId = id := by
  obtain ⟨ms, -, rfl⟩ := ofRequest_eq_ok_iff.1 h
  rfl

end WorldDetails

end Steading
