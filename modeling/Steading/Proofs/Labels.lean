import Mathlib.Computability.Language
import Steading.Proofs.Footprint
import Steading.Proofs.RoundTrip

/-!
# Labels

A label consists of small letters, digits and hyphens, with no hyphen at either end. It can be told
from its bytes (`IsLabelWithin`) or by a pattern of its characters (`labelPattern`). A text of up to
40 bytes is accepted as an id if it is a label; the names of the tenant's objects are labels again,
of up to 63 bytes, and no other tenant's objects have them (`TenantId.named_by_labels`).
-/

namespace Steading

open scoped Computability

namespace Text

/-- The bytes of a text in UTF-8. -/
def bytes (s : String) : List UInt8 :=
  s.toByteArray.data.toList

theorem bytes_eq_flatMap (s : String) : bytes s = s.toList.flatMap String.utf8EncodeChar := by
  rw [bytes, ← String.utf8Encode_toList, List.utf8Encode]
  simp

theorem val_le_of_encoded {c : Char} (h : ∀ b ∈ String.utf8EncodeChar c, b ≤ 127) :
    c.val ≤ 127 := by
  rw [UInt32.le_iff_toNat_le]
  by_contra hc
  have hc : ¬ c.val.toNat ≤ 127 := hc
  simp only [String.utf8EncodeChar, hc] at h
  -- However many bytes there are, the first one is beyond 127.
  split_ifs at h <;> simp [UInt8.le_iff_toNat_le] at h <;> omega

theorem bytes_of_ascii {s : String} (h : ∀ c ∈ s.toList, c.val ≤ 127) :
    bytes s = s.toList.map Char.toUInt8 := by
  rw [bytes_eq_flatMap, ← List.flatMap_pure_eq_map]
  refine List.flatMap_congr fun c hc => ?_
  rw [String.utf8EncodeChar_eq_singleton (Char.utf8Size_eq_one_iff.2 (h c hc))]
  rfl

theorem ascii_of_bytes {s : String} (h : ∀ b ∈ bytes s, b ≤ 127) : ∀ c ∈ s.toList, c.val ≤ 127 := by
  intro c hc
  refine val_le_of_encoded fun b hb => h b ?_
  rw [bytes_eq_flatMap]
  exact List.mem_flatMap.2 ⟨c, hc, hb⟩

end Text

theorem isLowerAlnum_iff {c : Char} :
    isLowerAlnum c = true ↔ 97 ≤ c.toNat ∧ c.toNat ≤ 122 ∨ 48 ≤ c.toNat ∧ c.toNat ≤ 57 := by
  show ((97 ≤ c.val && c.val ≤ 122) || (48 ≤ c.val && c.val ≤ 57)) = true ↔ _
  simp only [Bool.or_eq_true, Bool.and_eq_true, decide_eq_true_eq]
  exact Iff.rfl

/-- Of the characters in a label, only the hyphen may not stand at an end. -/
theorem isLabel_iff {cs : List Char} :
    isLabel cs = true ↔ (∀ c ∈ cs, isLowerAlnum c = true ∨ c = '-') ∧ cs ≠ [] ∧
      cs.head? ≠ some '-' ∧ cs.getLast? ≠ some '-' := by
  have hend : ∀ {o : Option Char}, (∀ c ∈ o, isLowerAlnum c = true ∨ c = '-') →
      (o.any isLowerAlnum = true ↔ o ≠ none ∧ o ≠ some '-') := by
    intro o ho
    cases o with
    | none => simp
    | some c =>
      obtain hc | rfl := ho c rfl
      · have : c ≠ '-' := by rintro rfl; cases hc
        simp [hc, this]
      · simp [isLowerAlnum]
  rw [isLabel, Bool.and_eq_true, Bool.and_eq_true, List.all_eq_true, and_assoc]
  simp only [Bool.or_eq_true, beq_iff_eq]
  refine and_congr_right fun hall => ?_
  rw [hend fun c hc => hall c (List.mem_of_mem_head? hc),
    hend fun c hc => hall c (List.mem_of_mem_getLast? hc)]
  simp only [ne_eq, List.head?_eq_none_iff, List.getLast?_eq_none_iff]
  tauto

theorem isLabel_append_left {front cs : List Char}
    (hfront : (front.all fun c => isLowerAlnum c || c == '-') = true)
    (hhead : front.head?.any isLowerAlnum = true) (h : isLabel cs = true) :
    isLabel (front ++ cs) = true := by
  obtain ⟨hall, hnonempty, -, hlast⟩ := isLabel_iff.1 h
  simp only [List.all_eq_true, Bool.or_eq_true, beq_iff_eq] at hfront
  refine isLabel_iff.2 ⟨List.forall_mem_append.2 ⟨hfront, hall⟩, by simp [hnonempty], ?_, ?_⟩
  · cases front with
    | nil => cases hhead
    | cons c front =>
      rintro ⟨rfl⟩
      cases hhead
  · rwa [List.getLast?_append_of_ne_nil _ hnonempty]

theorem isLabel_append_right {cs back : List Char}
    (hback : (back.all fun c => isLowerAlnum c || c == '-') = true)
    (hlast : back.getLast?.any isLowerAlnum = true) (h : isLabel cs = true) :
    isLabel (cs ++ back) = true := by
  obtain ⟨hall, hnonempty, hhead, -⟩ := isLabel_iff.1 h
  simp only [List.all_eq_true, Bool.or_eq_true, beq_iff_eq] at hback
  refine isLabel_iff.2 ⟨List.forall_mem_append.2 ⟨hall, hback⟩, by simp [hnonempty], ?_, ?_⟩
  · rwa [List.head?_append_of_ne_nil _ hnonempty]
  · rw [List.getLast?_append]
    generalize back.getLast? = last at hlast ⊢
    cases last with
    | none => cases hlast
    | some c =>
      rintro ⟨rfl⟩
      cases hlast

/-- A small letter, a digit or a hyphen. -/
def IsLabelByte (b : UInt8) : Prop :=
  'a'.toUInt8 ≤ b ∧ b ≤ 'z'.toUInt8 ∨ '0'.toUInt8 ≤ b ∧ b ≤ '9'.toUInt8 ∨ b = '-'.toUInt8

theorem isLabelByte_iff {b : UInt8} :
    IsLabelByte b ↔ 97 ≤ b.toNat ∧ b.toNat ≤ 122 ∨ 48 ≤ b.toNat ∧ b.toNat ≤ 57 ∨ b.toNat = 45 := by
  rw [IsLabelByte, ← UInt8.toNat_inj]
  exact Iff.rfl

theorem IsLabelByte.ascii {b : UInt8} (h : IsLabelByte b) : b ≤ 127 := by
  have hb : b.toNat ≤ 127 := by
    rw [isLabelByte_iff] at h
    omega
  exact hb

theorem isLabelByte_toUInt8_iff {c : Char} (hc : c.val ≤ 127) :
    IsLabelByte c.toUInt8 ↔ isLowerAlnum c = true ∨ c = '-' := by
  have hnat : c.toNat ≤ 127 := hc
  have hbyte : c.toUInt8.toNat = c.toNat % 256 := rfl
  have hhyphen : c = '-' ↔ c.toNat = 45 := by rw [← Char.toNat_inj]; rfl
  rw [isLabelByte_iff, isLowerAlnum_iff, hhyphen, hbyte]
  omega

theorem toUInt8_eq_hyphen_iff {c : Char} (hc : c.val ≤ 127) :
    c.toUInt8 = '-'.toUInt8 ↔ c = '-' := by
  have hnat : c.toNat ≤ 127 := hc
  have hbyte : c.toUInt8.toNat = c.toNat % 256 := rfl
  have hhyphen : '-'.toUInt8.toNat = 45 := rfl
  have hhyphen' : '-'.toNat = 45 := rfl
  rw [← UInt8.toNat_inj, ← Char.toNat_inj, hbyte, hhyphen, hhyphen']
  omega

/-- The bytes of a label that is not empty and fits where there is room for so many. -/
structure IsLabelWithin (room : ℕ) (bs : List UInt8) : Prop where
  nonempty : 1 ≤ bs.length
  short : bs.length ≤ room
  bytes : ∀ b ∈ bs, IsLabelByte b
  head : bs.head? ≠ some '-'.toUInt8
  last : bs.getLast? ≠ some '-'.toUInt8

section

variable {s : String} {room : ℕ}

/-- Where all characters are ASCII, the bytes are the characters. -/
theorem isLabelWithin_bytes_iff_of_ascii (hascii : ∀ c ∈ s.toList, c.val ≤ 127) :
    IsLabelWithin room (Text.bytes s) ↔ isLabel s.toList = true ∧ s.utf8ByteSize ≤ room := by
  have hbytes := Text.bytes_of_ascii hascii
  have hlength : (Text.bytes s).length = s.utf8ByteSize := rfl
  have ends : ∀ {o : Option Char}, (∀ c ∈ o, c.val ≤ 127) →
      (o.map Char.toUInt8 = some '-'.toUInt8 ↔ o = some '-') := by
    intro o ho
    cases o with
    | none => simp
    | some c => simpa using toUInt8_eq_hyphen_iff (ho c rfl)
  have hhead := ends fun c hc => hascii c (List.mem_of_mem_head? hc)
  have hlast := ends fun c hc => hascii c (List.mem_of_mem_getLast? hc)
  have hall : (∀ b ∈ Text.bytes s, IsLabelByte b) ↔
      ∀ c ∈ s.toList, isLowerAlnum c = true ∨ c = '-' := by
    rw [hbytes, List.forall_mem_map]
    exact forall₂_congr fun c hc => isLabelByte_toUInt8_iff (hascii c hc)
  rw [← List.head?_map, ← hbytes] at hhead
  rw [← List.getLast?_map, ← hbytes] at hlast
  rw [isLabel_iff, ← hall, ← hlength]
  constructor
  · rintro ⟨hnonempty, hshort, hbyte, hfirst, hend⟩
    refine ⟨⟨hbyte, ?_, fun h => hfirst (hhead.2 h), fun h => hend (hlast.2 h)⟩, hshort⟩
    intro hnil
    rw [hbytes, hnil] at hnonempty
    cases hnonempty
  · rintro ⟨⟨hbyte, hnonempty, hfirst, hend⟩, hshort⟩
    refine ⟨?_, hshort, hbyte, fun h => hfirst (hhead.1 h), fun h => hend (hlast.1 h)⟩
    rw [hbytes, List.length_map]
    exact List.length_pos_iff.2 hnonempty

theorem isLabelWithin_bytes_iff :
    IsLabelWithin room (Text.bytes s) ↔ isLabel s.toList = true ∧ s.utf8ByteSize ≤ room := by
  constructor
  · intro h
    have hascii := Text.ascii_of_bytes fun b hb => (h.bytes b hb).ascii
    exact (isLabelWithin_bytes_iff_of_ascii hascii).1 h
  · intro h
    refine (isLabelWithin_bytes_iff_of_ascii fun c hc => ?_).2 h
    have hnat : c.toNat ≤ 127 := by
      obtain hc | rfl := (isLabel_iff.1 h.1).1 c hc
      · rw [isLowerAlnum_iff] at hc
        omega
      · decide
    exact hnat

end

/-- The texts of one character out of a class. -/
def oneOf (p : Set Char) : Language Char :=
  {w | ∃ c ∈ p, w = [c]}

/-- `[a-z0-9]` -/
def lowerAlnum : Set Char :=
  {c | 'a' ≤ c ∧ c ≤ 'z' ∨ '0' ≤ c ∧ c ≤ '9'}

/-- `[a-z0-9]([-a-z0-9]*[a-z0-9])?` -/
def labelPattern : Language Char :=
  oneOf lowerAlnum * (1 + (oneOf ({'-'} ∪ lowerAlnum))∗ * oneOf lowerAlnum)

theorem mem_lowerAlnum {c : Char} : c ∈ lowerAlnum ↔ isLowerAlnum c = true := by
  rw [isLowerAlnum_iff]
  exact Iff.rfl

theorem mem_kstar_oneOf {p : Set Char} {w : List Char} : w ∈ (oneOf p)∗ ↔ ∀ c ∈ w, c ∈ p := by
  rw [Language.mem_kstar]
  constructor
  · rintro ⟨ws, rfl, hws⟩ c hc
    obtain ⟨v, hv, hcv⟩ := List.mem_flatten.1 hc
    obtain ⟨d, hd, rfl⟩ := hws v hv
    rwa [List.mem_singleton.1 hcv]
  · intro h
    refine ⟨w.map fun c => [c], by rw [← List.flatMap_def, List.flatMap_singleton'], fun v hv => ?_⟩
    obtain ⟨c, hc, rfl⟩ := List.mem_map.1 hv
    exact ⟨c, h c hc, rfl⟩

theorem mem_labelPattern_iff {w : List Char} : w ∈ labelPattern ↔ isLabel w = true := by
  have hinner : ∀ {c}, c ∈ ({'-'} ∪ lowerAlnum : Set Char) ↔ isLowerAlnum c = true ∨ c = '-' := by
    intro c
    rw [Set.mem_union, Set.mem_singleton_iff, mem_lowerAlnum, or_comm]
  rw [labelPattern, Language.mem_mul]
  constructor
  · rintro ⟨_, ⟨a, ha, rfl⟩, u, hu, rfl⟩
    rw [mem_lowerAlnum] at ha
    rcases (Language.mem_add _ _ _).1 hu with rfl | hu
    · simp [isLabel, ha]
    · obtain ⟨v, hv, _, ⟨b, hb, rfl⟩, rfl⟩ := Language.mem_mul.1 hu
      rw [mem_lowerAlnum] at hb
      have hv : ∀ c ∈ v, isLowerAlnum c = true ∨ c = '-' := fun c hc =>
        hinner.1 (mem_kstar_oneOf.1 hv c hc)
      simpa [isLabel, ha, hb, List.getLast?_cons] using hv
  · intro h
    simp only [isLabel, Bool.and_eq_true, List.all_eq_true, Bool.or_eq_true, beq_iff_eq] at h
    obtain ⟨⟨hall, hhead⟩, hlast⟩ := h
    cases w with
    | nil => cases hhead
    | cons a u =>
      refine ⟨[a], ⟨a, mem_lowerAlnum.2 hhead, rfl⟩, u, ?_, rfl⟩
      rcases u.eq_nil_or_concat with rfl | ⟨v, b, rfl⟩
      · exact Or.inl rfl
      · have hb : isLowerAlnum b = true := by simpa [List.getLast?_cons] using hlast
        refine Or.inr ⟨v, mem_kstar_oneOf.2 fun c hc => hinner.2 (hall c ?_), [b],
          ⟨b, mem_lowerAlnum.2 hb, rfl⟩, by simp⟩
        simp [hc]

namespace TenantId

theorem parse_eq_ok_iff {raw : String} {t : TenantId} : parse raw = .ok t ↔ t.text = raw := by
  constructor
  · intro h
    rw [parse] at h
    split_ifs at h
    cases h
    rfl
  · rintro rfl
    exact parse_text t

theorem exists_parse_iff {raw : String} :
    (∃ t, parse raw = .ok t) ↔ isLabel raw.toList = true ∧ raw.utf8ByteSize ≤ 40 := by
  simp only [parse_eq_ok_iff]
  constructor
  · rintro ⟨t, rfl⟩
    exact ⟨t.label, t.short⟩
  · rintro ⟨hlabel, hshort⟩
    exact ⟨⟨raw, hshort, hlabel⟩, rfl⟩

theorem isLabel_deploymentName (t : TenantId) : isLabel t.deploymentName.toList = true := by
  rw [deploymentName, String.toList_append]
  exact isLabel_append_left (by decide) (by decide) t.label

theorem isLabel_claimName (t : TenantId) : isLabel t.claimName.toList = true := by
  rw [claimName, String.toList_append]
  exact isLabel_append_right (by decide) (by decide) t.isLabel_deploymentName

/-- A text is accepted as an id exactly if its bytes are those of a label of up to 40 bytes, or if
it is that short and fits the pattern. The names that an accepted id gives to the tenant's objects
are labels of up to 63 bytes, and another id gives others. -/
theorem named_by_labels :
    (∀ raw : String, (∃ t, parse raw = .ok t) ↔ IsLabelWithin 40 (Text.bytes raw)) ∧
      (∀ raw : String,
        (∃ t, parse raw = .ok t) ↔ raw.utf8ByteSize ≤ 40 ∧ raw.toList ∈ labelPattern) ∧
      (∀ raw t, parse raw = .ok t ↔ t.text = raw) ∧
      (∀ t : TenantId, IsLabelWithin 63 (Text.bytes t.deploymentName) ∧
        IsLabelWithin 63 (Text.bytes t.claimName)) ∧
      Function.Injective deploymentName ∧ Function.Injective claimName := by
  refine ⟨fun raw => ?_, fun raw => ?_, fun _ _ => parse_eq_ok_iff, fun t => ⟨?_, ?_⟩,
    deploymentName_injective, claimName_injective⟩
  · rw [exists_parse_iff, isLabelWithin_bytes_iff]
  · rw [exists_parse_iff, mem_labelPattern_iff, and_comm]
  · have hsize : t.deploymentName.utf8ByteSize = 8 + t.text.utf8ByteSize :=
      String.utf8ByteSize_append
    have hshort := t.short
    exact isLabelWithin_bytes_iff.2 ⟨t.isLabel_deploymentName, by omega⟩
  · have hsize : t.deploymentName.utf8ByteSize = 8 + t.text.utf8ByteSize :=
      String.utf8ByteSize_append
    have hsize' : t.claimName.utf8ByteSize = t.deploymentName.utf8ByteSize + 5 :=
      String.utf8ByteSize_append
    have hshort := t.short
    exact isLabelWithin_bytes_iff.2 ⟨t.isLabel_claimName, by omega⟩

end TenantId

end Steading
