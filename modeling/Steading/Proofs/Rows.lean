import Steading.Store.Tables

/-!
# Rows and what they hold

Reading a row gives back what was written into it. Of a modifier that takes its key and value to be
written the way they are read (`Modifier.IsCanonical`).
-/

namespace Steading

namespace Cell

variable (index : Nat) (name : String)

theorem uint16_ofUInt16 (n : UInt16) : (ofUInt16 n).uint16 index name = .ok n := by
  have h : (0 : Int) ≤ n.toNat ∧ (n.toNat : Int) < 0x10000 :=
    ⟨Int.natCast_nonneg _, Int.ofNat_lt.2 n.toNat_lt⟩
  rw [uint16, ofUInt16, inRange, if_pos h]
  exact congrArg Except.ok (UInt16.ofNat_toNat)

theorem uint32_ofUInt32 (n : UInt32) : (ofUInt32 n).uint32 index name = .ok n := by
  have h : (0 : Int) ≤ n.toNat ∧ (n.toNat : Int) < 0x100000000 :=
    ⟨Int.natCast_nonneg _, Int.ofNat_lt.2 n.toNat_lt⟩
  rw [uint32, ofUInt32, inRange, if_pos h]
  exact congrArg Except.ok (UInt32.ofNat_toNat)

theorem int64_ofInt64 (n : Int64) : (ofInt64 n).int64 index name = .ok n := by
  have h : -0x8000000000000000 ≤ n.toInt ∧ n.toInt < 0x8000000000000000 :=
    ⟨n.le_toInt, n.toInt_lt⟩
  rw [int64, ofInt64, inRange, if_pos h]
  exact congrArg Except.ok (Int64.ofInt_toInt n)

theorem bool_ofBool (b : Bool) : (ofBool b).bool index name = .ok b := by
  cases b <;> rfl

end Cell

theorem ServerState.parse_name (s : ServerState) : parse s.name = .ok s := by
  cases s with
  | running => rfl
  | terminated => rw [parse, if_neg (by decide), if_pos (by rfl)]

/-- The columns that a state is read after come out as they were written. -/
theorem ServerRow.server_ofServer (s : Server) (state : ServerState) :
    (ofServer s).server s.tenant state = .ok { s with state } := by
  rw [ServerRow.server]
  simp only [ofServer, Cell.uint16_ofUInt16, Cell.uint32_ofUInt32, Cell.int64_ofInt64]
  rfl

theorem ServerRow.read_ofServer (s : Server) : (ofServer s).read s.tenant = .ok s := by
  rw [ServerRow.read, ServerRow.server_ofServer, show (ofServer s).state = s.state.name from rfl]
  simp only [ServerState.parse_name]

theorem WorldRow.read_ofDetails (t : TenantId) (w : WorldDetails) (ms : List Modifier) :
    (ofDetails t w).read ms = .ok { w with modifiers := ms } := by
  rw [WorldRow.read]
  simp only [ofDetails, Cell.uint16_ofUInt16, Cell.uint32_ofUInt32, Cell.bool_ofBool]
  rfl

/-- A modifier is written as it would be read. -/
def Modifier.IsCanonical (m : Modifier) : Prop :=
  parse m.key.name m.value = .ok m

namespace ModifierRow

variable (t : TenantId)

theorem mapM_read_ofList : ∀ (position : Int) {ms : List Modifier}, (∀ m ∈ ms, m.IsCanonical) →
    (ofList t position ms).mapM read = .ok ms
  | _, [], _ => rfl
  | position, m :: ms, h => by
    obtain ⟨hm, hms⟩ := List.forall_mem_cons.1 h
    have hread : read ⟨t.text, position, m.key.name, m.value⟩ = .ok m := by
      rw [read, hm]
    rw [ofList, List.mapM_cons, hread, mapM_read_ofList (position + 1) hms]
    rfl

theorem tenant_of_mem_ofList : ∀ {position : Int} {ms : List Modifier} {row : ModifierRow},
    row ∈ ofList t position ms → row.tenant = t.text ∧ position ≤ row.position
  | _, [], _, h => by cases h
  | position, m :: ms, row, h => by
    rcases List.mem_cons.1 h with rfl | h
    · exact ⟨rfl, Int.le_refl _⟩
    · obtain ⟨htenant, hposition⟩ := tenant_of_mem_ofList h
      exact ⟨htenant, by omega⟩

theorem pairwise_ofList : ∀ (position : Int) (ms : List Modifier),
    (ofList t position ms).Pairwise fun a b => a.position ≤ b.position
  | _, [] => List.Pairwise.nil
  | position, m :: ms => by
    refine List.pairwise_cons.2 ⟨fun row hrow => ?_, pairwise_ofList (position + 1) ms⟩
    have hposition := (tenant_of_mem_ofList t hrow).2
    show position ≤ row.position
    omega

/-- The rows of a list are in the order of their positions as they stand. -/
theorem mergeSort_ofList (position : Int) (ms : List Modifier) :
    (ofList t position ms).mergeSort (fun a b => a.position ≤ b.position) =
      ofList t position ms := by
  refine List.mergeSort_of_pairwise ((pairwise_ofList t position ms).imp ?_)
  simp

end ModifierRow

end Steading
