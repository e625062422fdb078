import Mathlib.Data.List.Infix
import Steading.Proofs.Requests
import Steading.Proofs.Site

/-!
# Which requests are accepted, and as what

A request is accepted if each of its fields keeps its rule (`ServerRequest.Acceptable`). The world
it comes to is granted what was asked for as far as the plan allows it (`Grants`), and under a plan
that allows anything at all it is a request for itself (`WorldDetails.normalises`).
-/

namespace Steading

theorem Text.occursIn_iff {w cs : List Char} : occursIn w cs = true ↔ w <:+: cs := by
  induction cs with
  | nil => simp [occursIn]
  | cons c cs ih =>
    rw [occursIn, Bool.or_eq_true, List.isPrefixOf_iff_prefix, ih, List.infix_cons_iff]

theorem isWorldChar_iff {c : Char} :
    isWorldChar c = true ↔
      'A' ≤ c ∧ c ≤ 'Z' ∨ 'a' ≤ c ∧ c ≤ 'z' ∨ '0' ≤ c ∧ c ≤ '9' ∨ c = '_' ∨ c = '-' := by
  show (((decide ('A' ≤ c ∧ c ≤ 'Z') || ('a' ≤ c && c ≤ 'z')) || ('0' ≤ c && c ≤ '9')) || c == '_' ||
    c == '-') = true ↔ _
  simp only [Bool.or_eq_true, Bool.and_eq_true, decide_eq_true_eq, beq_iff_eq, or_assoc]

namespace ServerRequest

/-- What is asked of the fields of a request. The name counts as it is between the blanks around it;
a field that may be left open has to keep its rule only if it is given. -/
structure Acceptable (r : ServerRequest) : Prop where
  name : ∃ name, Text.Trims r.name name ∧ 1 ≤ name.length ∧ name.length ≤ 64 ∧
    (∀ c ∈ name.toList, c ≠ '"' ∧ Text.isControl c = false) ∧
    ¬ r.password.toList <:+: name.toList
  world : 1 ≤ r.world.length ∧ r.world.length ≤ 64 ∧
    ∀ c ∈ r.world.toList,
      'A' ≤ c ∧ c ≤ 'Z' ∨ 'a' ≤ c ∧ c ≤ 'z' ∨ '0' ≤ c ∧ c ≤ '9' ∨ c = '_' ∨ c = '-'
  password : 5 ≤ r.password.length ∧ ∀ c ∈ r.password.toList, c ≠ '"' ∧ Text.isBlank c = false
  port : ∀ p ∈ r.port, 1024 ≤ p ∧ p ≤ 65534
  intervals : ∀ i ∈ [r.saveInterval, r.initialBackup, r.backupInterval], ∀ s ∈ i, 60 ≤ s
  cpu : r.cpu ≠ some 0
  memory : r.memory ≠ some 0
  modifiers : ∃ ms, Modifier.parseAll r.modifiers = .ok ms

theorem unsuitable_eq_false_iff {cs : List Char} {p : Char → Bool} :
    (cs.any fun c => c == '"' || p c) = false ↔ ∀ c ∈ cs, c ≠ '"' ∧ p c = false := by
  simp

theorem nameLength_eq_false_iff {s : String} :
    (s.isEmpty || 64 < s.length) = false ↔ 1 ≤ s.length ∧ s.length ≤ 64 := by
  have hempty : s.isEmpty = false ↔ 1 ≤ s.length := by
    rw [← Bool.not_eq_true, String.isEmpty_iff, Nat.one_le_iff_ne_zero, ne_eq,
      String.length_eq_zero_iff]
  rw [Bool.or_eq_false_iff, hempty, decide_eq_false_iff_not, not_lt]

theorem isWorldName_iff {s : String} :
    isWorldName s = true ↔ 1 ≤ s.length ∧ s.length ≤ 64 ∧ ∀ c ∈ s.toList,
      'A' ≤ c ∧ c ≤ 'Z' ∨ 'a' ≤ c ∧ c ≤ 'z' ∨ '0' ≤ c ∧ c ≤ '9' ∨ c = '_' ∨ c = '-' := by
  simp only [isWorldName, Bool.and_eq_true, decide_eq_true_eq, List.all_eq_true, isWorldChar_iff,
    and_assoc]
  exact Iff.rfl

theorem portFault_eq_false_iff {port : Option UInt16} :
    (port.any fun p => p < 1024 || 65534 < p) = false ↔ ∀ p ∈ port, 1024 ≤ p ∧ p ≤ 65534 := by
  cases port <;> simp

theorem tooShort_eq_false_iff {s : Option UInt32} : tooShort s = false ↔ ∀ n ∈ s, 60 ≤ n := by
  cases s <;> simp [tooShort]

variable {r : ServerRequest}

theorem exists_validate_iff : (∃ ms, r.validate = .ok ms) ↔ r.Acceptable := by
  simp only [validate_eq_ok_iff, exists_and_left, faults, List.forall_mem_cons, List.not_mem_nil,
    IsEmpty.forall_iff, implies_true, and_true, nameLength_eq_false_iff, unsuitable_eq_false_iff,
    Bool.not_eq_eq_eq_not, Bool.not_false, isWorldName_iff, decide_eq_false_iff_not, not_lt,
    portFault_eq_false_iff, tooShort_eq_false_iff, beq_eq_false_iff_ne]
  have hinside : Text.occursIn r.password.toList (Text.trim r.name).toList = false ↔
      ¬ r.password.toList <:+: (Text.trim r.name).toList := by
    rw [← Text.occursIn_iff, Bool.not_eq_true]
  rw [hinside]
  constructor
  · rintro ⟨⟨hlength, hname, hworld, hlong, hpassword, hnot, hport, hsave, hinitial, hbackup, hcpu,
      hmemory⟩, hms⟩
    have htrims := Text.trims_trim r.name
    exact {
      name := ⟨_, htrims, hlength.1, hlength.2, hname, hnot⟩
      world := hworld
      password := ⟨hlong, hpassword⟩
      port := hport
      intervals := by simpa using ⟨hsave, hinitial, hbackup⟩
      cpu := hcpu
      memory := hmemory
      modifiers := hms }
  · rintro ⟨⟨name, htrims, hlower, hupper, hname, hnot⟩, hworld, ⟨hlong, hpassword⟩, hport,
      hintervals, hcpu, hmemory, hms⟩
    obtain rfl := Text.trims_iff.1 htrims
    simp only [List.forall_mem_cons] at hintervals
    exact ⟨⟨⟨hlower, hupper⟩, hname, hworld, hlong, hpassword, hnot, hport, hintervals.1,
      hintervals.2.1, hintervals.2.2.1, hcpu, hmemory⟩, hms⟩

end ServerRequest

/-- Of what was asked, so much is granted as the ceiling allows. -/
structure Grants (asked ceiling granted : UInt32) : Prop where
  within : granted ≤ ceiling
  whole : asked ≤ ceiling → granted = asked
  capped : ceiling ≤ asked → granted = ceiling

theorem toNat_clampToCeiling (requested : Option UInt32) (ceiling : UInt32) :
    (clampToCeiling requested ceiling).toNat =
      min (requested.getD ceiling).toNat ceiling.toNat := by
  cases requested with
  | none => exact (min_self _).symm
  | some v =>
    show (if v ≤ ceiling then v else ceiling).toNat = min v.toNat ceiling.toNat
    split_ifs with h
    · exact (min_eq_left h).symm
    · exact (min_eq_right (Nat.le_of_not_le h)).symm

theorem grants_clampToCeiling (requested : Option UInt32) (ceiling : UInt32) :
    Grants (requested.getD ceiling) ceiling (clampToCeiling requested ceiling) := by
  have hnat := toNat_clampToCeiling requested ceiling
  refine ⟨clampToCeiling_le _ _, fun h => UInt32.toNat_inj.1 ?_, fun h => UInt32.toNat_inj.1 ?_⟩
  · rw [hnat]
    exact min_eq_left h
  · rw [hnat]
    exact min_eq_right h

theorem clampToCeiling_clampToCeiling (requested : Option UInt32) (ceiling : UInt32) :
    clampToCeiling (some (clampToCeiling requested ceiling)) ceiling =
      clampToCeiling requested ceiling :=
  (grants_clampToCeiling (some _) ceiling).whole (clampToCeiling_le _ _)

/-- Where nobody asks for nothing, nothing is granted only if nothing is allowed. -/
theorem clampToCeiling_eq_zero_iff {requested : Option UInt32} (h : requested ≠ some 0)
    (ceiling : UInt32) : clampToCeiling requested ceiling = 0 ↔ ceiling = 0 := by
  rw [← UInt32.toNat_inj, ← UInt32.toNat_inj, toNat_clampToCeiling]
  cases requested with
  | none => rw [Option.getD_none, min_self]
  | some v =>
    have hv : v.toNat ≠ 0 := fun hzero => h (congrArg some (UInt32.toNat_inj.1 hzero))
    have hzero : (0 : UInt32).toNat = 0 := rfl
    rw [Option.getD_some]
    omega

theorem forall_getD {α : Type} {p : α → Prop} {o : Option α} {default : α} (h : ∀ a ∈ o, p a)
    (hdefault : p default) : p (o.getD default) := by
  cases o with
  | none => exact hdefault
  | some a => exact h a rfl

namespace WorldDetails

/-- A request for a world as it is, with nothing left open. -/
def request (w : WorldDetails) : ServerRequest where
  name := w.name
  world := w.world
  password := w.password
  port := some w.port
  crossplay := w.crossplay
  isPublic := w.isPublic
  saveInterval := some w.saveInterval
  backupCount := some w.backupCount
  initialBackup := some w.initialBackup
  backupInterval := some w.backupInterval
  cpu := some w.cpu
  memory := some w.memory
  modifiers := w.modifiers.map Modifier.input

variable {r : ServerRequest} {e : Entitlements} {id : String} {w : WorldDetails}
  {ms : List Modifier}

theorem fill_request : fill (fill r e id ms).request e id ms = fill r e id ms := by
  simp only [fill, request, Text.trim_trim, Option.getD_some, clampToCeiling_clampToCeiling]

theorem acceptable_request_iff (h : r.Acceptable) (hms : Modifier.parseAll r.modifiers = .ok ms) :
    (fill r e id ms).request.Acceptable ↔ e.cpu ≠ 0 ∧ e.memoryGi ≠ 0 := by
  have hgranted : ∀ {v : UInt32}, some v ≠ some 0 ↔ v ≠ 0 := by simp
  rw [ne_eq, ne_eq, ← clampToCeiling_eq_zero_iff h.cpu e.cpu,
    ← clampToCeiling_eq_zero_iff h.memory e.memoryGi]
  constructor
  · intro h'
    exact ⟨hgranted.1 h'.cpu, hgranted.1 h'.memory⟩
  · rintro ⟨hcpu, hmemory⟩
    obtain ⟨name, htrims, hname⟩ := h.name
    obtain rfl := Text.trims_iff.1 htrims
    have hintervals := h.intervals
    simp only [List.forall_mem_cons] at hintervals
    obtain ⟨hsave, hinitial, hbackup, -⟩ := hintervals
    exact {
      name := ⟨_, Text.trims_iff.2 (Text.trim_trim _), hname⟩
      world := h.world
      password := h.password
      port := by
        rintro _ ⟨rfl⟩
        exact forall_getD h.port (by decide)
      intervals := by
        simp only [List.forall_mem_cons]
        refine ⟨?_, ?_, ?_, nofun⟩
        · rintro _ ⟨rfl⟩
          exact forall_getD hsave (by decide)
        · rintro _ ⟨rfl⟩
          exact forall_getD hinitial (by decide)
        · rintro _ ⟨rfl⟩
          exact forall_getD hbackup (by decide)
      cpu := hgranted.2 hcpu
      memory := hgranted.2 hmemory
      modifiers := ⟨ms, Modifier.parseAll_map_input hms⟩ }

/-- A request comes to a world exactly if it is acceptable. The world is granted what was asked for,
or by default, as far as the plan allows it, and it has a port behind its own. Asked for as it is,
it comes to itself, unless the plan allows nothing. -/
theorem normalises (r : ServerRequest) (e : Entitlements) (id : String) :
    ((∃ w, ofRequest r e id = .ok w) ↔ r.Acceptable) ∧
      ∀ w, ofRequest r e id = .ok w →
        Grants (r.cpu.getD e.cpu) e.cpu w.cpu ∧
          Grants (r.memory.getD e.memoryGi) e.memoryGi w.memory ∧
          Grants (r.backupCount.getD defaultBackups) e.maxBackups w.backupCount ∧
          w.port.toNat + 1 < UInt16.size ∧
          (ofRequest w.request e id = .ok w ↔ 0 < e.cpu ∧ 0 < e.memoryGi) := by
  constructor
  · rw [← ServerRequest.exists_validate_iff]
    constructor
    · rintro ⟨w, hw⟩
      obtain ⟨ms, hms, -⟩ := ofRequest_eq_ok_iff.1 hw
      exact ⟨ms, hms⟩
    · rintro ⟨ms, hms⟩
      exact ⟨_, ofRequest_eq_ok_iff.2 ⟨ms, hms, rfl⟩⟩
  · intro w hw
    have hport : w.port.toNat ≤ 65534 := (sound_of_ofRequest hw).port.2
    obtain ⟨ms, hvalid, rfl⟩ := ofRequest_eq_ok_iff.1 hw
    have hacceptable := ServerRequest.exists_validate_iff.1 ⟨ms, hvalid⟩
    have hms := (ServerRequest.validate_eq_ok_iff.1 hvalid).2
    refine ⟨grants_clampToCeiling _ _, grants_clampToCeiling _ _, grants_clampToCeiling (some _) _,
      Nat.lt_of_le_of_lt (Nat.succ_le_succ hport) (by decide), ?_⟩
    rw [UInt32.pos_iff_ne_zero, UInt32.pos_iff_ne_zero, ← acceptable_request_iff hacceptable hms,
      ← ServerRequest.exists_validate_iff]
    constructor
    · intro h
      obtain ⟨ms', hms', -⟩ := ofRequest_eq_ok_iff.1 h
      exact ⟨ms', hms'⟩
    · rintro ⟨ms', hms'⟩
      have hread := (ServerRequest.validate_eq_ok_iff.1 hms').2
      obtain rfl : ms = ms' := Except.ok.inj ((Modifier.parseAll_map_input hms).symm.trans hread)
      exact ofRequest_eq_ok_iff.2 ⟨ms, hms', fill_request.symm⟩

/-- Blanks around the name and capitals in a modifier are dropped, and eight processors come to the
four of the plan. -/
theorem normalises_of_excess :
    let r : ServerRequest :=
      { ServerRequest.sample with
        name := " Midgard\t"
        cpu := some 8
        modifiers := [⟨"Raids", " NONE"⟩] }
    let e : Entitlements := ⟨4, 8, 2, 1, false⟩
    ∃ w, ofRequest r e "5ead" = .ok w ∧ r.Acceptable ∧ w.cpu = 4 ∧
      ofRequest w.request e "5ead" = .ok w := by
  intro r e
  have hworld : ∃ w, ofRequest r e "5ead" = .ok w :=
    ⟨fill r e "5ead" [⟨.raids, "none"⟩], by decide +kernel⟩
  obtain ⟨hiff, hgranted⟩ := normalises r e "5ead"
  obtain ⟨w, hw⟩ := hworld
  obtain ⟨hcpu, -, -, -, hagain⟩ := hgranted w hw
  exact ⟨w, hw, hiff.1 ⟨w, hw⟩, hcpu.capped (by decide),
    hagain.2 (by decide)⟩

end WorldDetails

end Steading
