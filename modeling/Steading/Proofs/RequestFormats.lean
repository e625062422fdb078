import Mathlib.Data.List.Forall2
import Steading.Proofs.RoundTrip
import Steading.Proofs.YamlNodes
import Steading.World.Yaml

/-!
# Requests in both formats

Each field of a request is read from the node of a tree as it is from the tree's value. So a text of
JSON gives the same request when it is read as YAML, but only if it is portable and the request and
its modifiers are written as objects. Otherwise it gives none, as with a surrogate pair among the
escapes of a string (`ServerRequest.ofText?_of_json`).
-/

namespace Steading

namespace Json

open Yaml (Anchors Node Reader)

/-! ## Values and nodes -/

/-- A name as a node. -/
def nameNode (name : String) : Node :=
  .scalar name .doubleQuoted none

mutual

/-- A value, and what the document of its text holds for it. -/
inductive Corresponds : Json → Node → Prop
  | null : Corresponds .null (.scalar "null" .plain none)
  | bool (b : Bool) : Corresponds (.bool b) (.scalar (if b then "true" else "false") .plain none)
  | int (num : Numeral) {v : Int} (h : num.value = .int v) :
    Corresponds (.int v) (.scalar (String.ofList num.chars) .plain none)
  | real (num : Numeral) {literal : String} (h : num.value = .real literal) :
    Corresponds (.real literal) (.scalar (String.ofList num.chars) .plain none)
  | str (s : String) : Corresponds (.str s) (.scalar s .doubleQuoted none)
  | arr {js : List Json} {ns : List Node} (h : List.Forall₂ Corresponds js ns) :
    Corresponds (.arr js) (.sequence ns)
  | obj {ms : List (String × Json)} {ps : List (String × Node)} (h : MembersCorrespond ms ps) :
    Corresponds (.obj ms) (.mapping (ps.map fun p => (nameNode p.1, p.2)))

inductive MembersCorrespond : List (String × Json) → List (String × Node) → Prop
  | nil : MembersCorrespond [] []
  | cons (name : String) {j : Json} {n : Node} {ms : List (String × Json)}
    {ps : List (String × Node)} (h : Corresponds j n) (hs : MembersCorrespond ms ps) :
    MembersCorrespond ((name, j) :: ms) ((name, n) :: ps)

end

theorem Numeral.value_cases (n : Numeral) :
    (∃ v, n.value = .int v) ∨ ∃ literal, n.value = .real literal := by
  cases h : n.value with
  | int v => exact .inl ⟨v, rfl⟩
  | real literal => exact .inr ⟨literal, rfl⟩
  | _ =>
    rw [value, ofLiteral] at h
    split at h <;> split at h <;> cases h

theorem Numeral.corresponds (n : Numeral) :
    Corresponds n.value (.scalar (String.ofList n.chars) .plain none) := by
  obtain ⟨v, h⟩ | ⟨literal, h⟩ := n.value_cases <;> rw [h]
  · exact .int n h
  · exact .real n h

mutual

theorem Source.corresponds :
    ∀ {s : Source}, s.all Mark.portable = true → Corresponds s.value s.node
  | .null, _ => .null
  | .bool true, _ => .bool true
  | .bool false, _ => .bool false
  | .number n, _ => n.corresponds
  | .string ms, h => by
    rw [Source.value, literalText_eq h]
    exact .str _
  | .emptyArray _, _ => .arr .nil
  | .array is, h => .arr (is.corresponds h)
  | .emptyObject _, _ => .obj .nil
  | .object ms, h => by
    obtain ⟨fields, nodes, hvalues, hnodes, hcorrespond⟩ := ms.correspond h
    have hvalue : (Source.object ms).value = .obj fields := by
      rw [Source.value, hvalues, ofMembers_named]
    have hnode : (Source.object ms).node =
        .mapping (nodes.map fun p => (nameNode p.1, p.2)) := by
      rw [Source.node, hnodes]
    rw [hvalue, hnode]
    exact .obj hcorrespond

theorem Items.corresponds : ∀ {is : Items}, is.all Mark.portable = true →
    List.Forall₂ Corresponds is.values is.nodes
  | .last _ i _, h => .cons (i.corresponds h) .nil
  | .more _ i _ is, h => by
    rw [Items.all, Bool.and_eq_true] at h
    exact .cons (i.corresponds h.1) (is.corresponds h.2)

theorem Members.correspond : ∀ {ms : Members}, ms.all Mark.portable = true →
    ∃ (fields : List (String × Json)) (nodes : List (String × Node)),
      ms.values = fields.map (fun m => (some m.1, m.2)) ∧
      ms.nodes = nodes.map (fun p => (nameNode p.1, p.2)) ∧ MembersCorrespond fields nodes
  | .last n _ v _, h => by
    rw [Members.all, Bool.and_eq_true] at h
    refine ⟨[(spelled n.marks, v.value)], [(spelled n.marks, v.node)], ?_, rfl,
      .cons _ (v.corresponds h.2) .nil⟩
    rw [Members.values, literalText_eq h.1]
    rfl
  | .more n _ v _ ms, h => by
    rw [Members.all, Bool.and_eq_true, Bool.and_eq_true] at h
    obtain ⟨fields, nodes, hvalues, hnodes, hcorrespond⟩ := ms.correspond h.2.2
    refine ⟨(spelled n.marks, v.value) :: fields, (spelled n.marks, v.node) :: nodes, ?_, ?_,
      .cons _ (v.corresponds h.2.1) hcorrespond⟩
    · rw [Members.values, literalText_eq h.1, hvalues]
      rfl
    · rw [Members.nodes, hnodes]
      rfl

end

/-! ## Fields -/

section

variable {α : Type} {decode : Json → Option α} {read : Reader α} {j : Json} {n : Node}

/-- What one reading finds, another finds too. -/
def Carries {α : Type} (x y : Option α) : Prop :=
  ∀ v, x = some v → y = some v

theorem Carries.refl (x : Option α) : Carries x x :=
  fun _ hv => hv

theorem Carries.bind {β : Type} {x y : Option α} {f g : α → Option β} (h : Carries x y)
    (hrest : ∀ v, Carries (f v) (g v)) : Carries (x >>= f) (y >>= g) := by
  intro r hr
  obtain ⟨v, hv, hr⟩ := Option.bind_eq_some_iff.1 hr
  exact Option.bind_eq_some_iff.2 ⟨v, h v hv, hrest v r hr⟩

/-- What is read from a value is read from the node. -/
def Agrees (decode : Json → Option α) (read : Reader α) (j : Json) (n : Node) : Prop :=
  ∀ a : Anchors, Carries (decode j) (read a n)

theorem agrees_str (h : Corresponds j n) : Agrees str? Reader.text j n := by
  intro a x hx
  cases h with
  | str s => exact hx
  | _ => cases hx

theorem agrees_bool (h : Corresponds j n) : Agrees bool? Reader.bool j n := by
  intro a x hx
  cases h with
  | bool b =>
    obtain rfl := Option.some.inj hx
    cases b <;> rfl
  | _ => cases hx

theorem foldlM_digits (digit? : Char → Option Nat)
    (h : ∀ c, c.isDigit = true → digit? c = some (c.toNat - '0'.toNat)) :
    ∀ {ds : List Char}, (∀ c ∈ ds, c.isDigit = true) → ∀ n : Nat,
      ds.foldlM (fun n d => (digit? d).map (n * 10 + ·)) n =
        some (ds.foldl (fun n d => n * 10 + (d.toNat - '0'.toNat)) n)
  | [], _, _ => rfl
  | d :: ds, hds, n => by
    rw [List.forall_mem_cons] at hds
    rw [List.foldlM_cons, h d hds.1]
    exact foldlM_digits digit? h hds.2 _

theorem digits?_ten (d : Digits) : Reader.digits? 10 d.chars = some (digitsValue d.chars) := by
  have hne : d.chars.isEmpty = false := List.isEmpty_eq_false_iff.2 d.ne_nil
  rw [Reader.digits?, hne]
  refine foldlM_digits _ (fun c hc => ?_) d.digit 0
  have hlt : c.toNat - 48 < 10 := by
    have hc : '0' ≤ c ∧ c ≤ '9' := by
      simpa [Char.isDigit, Char.le_def] using hc
    have hle : c.toNat ≤ 57 := hc.2
    omega
  simp [hc, hlt]

/-- The whole part of a number is one for the readers of both formats. -/
theorem natural?_whole (num : Numeral) :
    Reader.natural? (String.ofList num.whole.chars) = some (digitsValue num.whole.chars) := by
  obtain ⟨c, cs, hcs⟩ := List.exists_cons_of_ne_nil num.whole.ne_nil
  have hc := num.whole.digit c (hcs ▸ List.mem_cons_self)
  by_cases hzero : c = '0'
  · have hwhole : num.whole.chars = ['0'] := num.eq_zero (by rw [hcs, hzero]; rfl)
    rw [hwhole]
    rfl
  · have hplus : c ≠ '+' := by
      rintro rfl
      cases hc
    rw [← digits?_ten, Reader.natural?, String.toList_ofList, hcs]
    simp [hplus, hzero]

/-- Only a number without a sign, a fraction and an exponent is kept as a natural one. -/
theorem Numeral.whole_of_value {num : Numeral} {v : Int} (h : num.value = .int v) (hv : 0 ≤ v) :
    num.chars = num.whole.chars ∧ v = digitsValue num.whole.chars := by
  have hvalue : ofLiteral num.negative num.whole.chars num.tail = .int v := h
  rw [Numeral.chars]
  generalize num.tail = tail at hvalue ⊢
  cases hminus : num.negative with
  | false =>
    rw [hminus] at hvalue
    unfold ofLiteral at hvalue
    simp only [Bool.false_eq_true, if_false] at hvalue
    split_ifs at hvalue with hint
    simp only [Bool.false_and, Bool.not_false, Bool.and_true, Bool.and_eq_true,
      List.isEmpty_iff] at hint
    exact ⟨by simp [hint.1], (Json.int.inj hvalue).symm⟩
  | true =>
    rw [hminus] at hvalue
    unfold ofLiteral at hvalue
    simp only [if_true] at hvalue
    split_ifs at hvalue with hint
    obtain rfl := Json.int.inj hvalue
    simp only [Bool.true_and, Bool.and_eq_true, Bool.not_eq_true', beq_eq_false_iff_ne] at hint
    omega

theorem agrees_below (bound : Nat) (h : Corresponds j n) :
    Agrees (below? bound) (Reader.below bound) j n := by
  intro a x hx
  cases h with
  | @int num v hnum =>
    rw [below?] at hx
    split_ifs at hx with hv
    obtain rfl := Option.some.inj hx
    obtain ⟨hchars, hvalue⟩ := Numeral.whole_of_value hnum hv.1
    have hform : Reader.formOf "int" a (.scalar (String.ofList num.chars) .plain none) =
        some (String.ofList num.chars) := rfl
    rw [Reader.below, hform, Option.bind_eq_bind, Option.bind_some, hchars, natural?_whole]
    simp only [hvalue, Int.toNat_natCast] at hv ⊢
    exact if_pos (by omega)
  | _ => cases hx

theorem agrees_uint16 (h : Corresponds j n) : Agrees uint16? Reader.uint16 j n := by
  intro a x hx
  obtain ⟨k, hk, rfl⟩ := Option.map_eq_some_iff.1 hx
  rw [Reader.uint16, agrees_below _ h a k hk]
  rfl

theorem agrees_uint32 (h : Corresponds j n) : Agrees uint32? Reader.uint32 j n := by
  intro a x hx
  obtain ⟨k, hk, rfl⟩ := Option.map_eq_some_iff.1 hx
  rw [Reader.uint32, agrees_below _ h a k hk]
  rfl

/-- A number does not say that there is no value. -/
theorem Numeral.not_isNull (num : Numeral) :
    ((String.ofList num.chars).isEmpty || Reader.isNull (String.ofList num.chars)) = false := by
  obtain ⟨c, hc, hnumber⟩ := num.head?_chars
  have hne : ∀ {w : String}, w.toList.head? ≠ some c → String.ofList num.chars ≠ w := by
    rintro w hw rfl
    rw [String.toList_ofList] at hw
    exact hw hc
  have hword : ∀ x, x ≠ '-' → x.isDigit = false → some x ≠ some c := by
    rintro x hminus hdigit ⟨⟩
    rcases hnumber with h | h
    · exact hminus h
    · rw [hdigit] at h
      cases h
  have hempty : String.ofList num.chars ≠ "" := hne (by simp)
  have hnull : String.ofList num.chars ≠ "~" ∧ String.ofList num.chars ≠ "null" ∧
      String.ofList num.chars ≠ "Null" ∧ String.ofList num.chars ≠ "NULL" :=
    ⟨hne (hword '~' (by decide) rfl), hne (hword 'n' (by decide) rfl),
      hne (hword 'N' (by decide) rfl), hne (hword 'N' (by decide) rfl)⟩
  simp [Reader.isNull, hempty, hnull]

theorem agrees_nullable (h : Corresponds j n) (hread : Agrees decode read j n) :
    Agrees (nullable decode) (Reader.nullable read) j n := by
  have hsome : ∀ {x : Option α}, (decode j).map some = some x → ∀ a, (read a n).map some = some x :=
    fun hx a => by
      obtain ⟨y, hy, rfl⟩ := Option.map_eq_some_iff.1 hx
      rw [hread a y hy]
      rfl
  intro a x hx
  cases h with
  | null => exact hx
  | bool b =>
    have hread := hsome hx a
    cases b <;> exact hread
  | int num _ | real num _ =>
    have hread := hsome hx a
    simp only [Reader.nullable, Reader.follow, Option.bind_eq_bind, Option.bind_some,
      num.not_isNull]
    exact hread
  | str _ | arr _ | obj _ => exact hsome hx a

theorem mapM_of_forall₂ {js : List Json} {ns : List Node} {a : Anchors}
    (h : List.Forall₂ Corresponds js ns)
    (hitems : ∀ i ∈ js, ∀ m, Corresponds i m → Agrees decode read i m) :
    Carries (js.mapM decode) (ns.mapM (read a)) := by
  induction h with
  | nil => exact .refl _
  | cons h _ ih =>
    rw [List.forall_mem_cons] at hitems
    rw [List.mapM_cons, List.mapM_cons]
    exact (hitems.1 _ h a).bind fun _ => (ih hitems.2).bind fun _ => .refl _

theorem agrees_list (h : Corresponds j n)
    (hitems : ∀ js, j = .arr js → ∀ i ∈ js, ∀ m, Corresponds i m → Agrees decode read i m) :
    Agrees (list? decode) (Reader.list read) j n := by
  intro a xs hx
  cases h with
  | @arr js ns h => exact mapM_of_forall₂ h (hitems js rfl) xs hx
  | _ => cases hx

/-! ## Records -/

/-- What a record holds for a field in both formats. -/
inductive SlotCorresponds : Slot → Yaml.Slot → Prop
  | given {j : Json} {n : Node} (h : Corresponds j n) : SlotCorresponds (.given j) (some n)
  | omitted : SlotCorresponds .omitted none

variable {ms : List (String × Json)} {ps : List (String × Node)} {slot : Slot} {slot' : Yaml.Slot}

theorem occurrences_eq (name : String) (h : MembersCorrespond ms ps) :
    occurrences ms name = (ps.filter (·.1 == name)).length := by
  induction ms generalizing ps with
  | nil =>
    cases h
    rfl
  | cons m ms ih =>
    cases h with
    | cons name' _ hs =>
      have ih := ih hs
      rw [occurrences] at ih ⊢
      cases hname : name' == name <;> simp [hname, ih]

theorem slotCorresponds (name : String) (h : MembersCorrespond ms ps) :
    SlotCorresponds (objectSlot ms name) (ps.lookup name) := by
  induction ms generalizing ps with
  | nil =>
    cases h
    exact .omitted
  | cons m ms ih =>
    cases h with
    | cons name' h hs =>
      have ih := ih hs
      rw [objectSlot] at ih ⊢
      rw [List.lookup_cons, List.lookup_cons]
      cases name == name' with
      | true => exact .given h
      | false => exact ih

theorem pairs_mapping (a : Anchors) (ps : List (String × Node)) :
    Reader.pairs a (.mapping (ps.map fun p => (nameNode p.1, p.2))) = some ps :=
  mapM_map_of_undone (f := fun p : String × Node => (nameNode p.1, p.2))
    (g := fun p => (Reader.text a p.1).map (·, p.2)) (fun _ => rfl) ps

theorem slots_mapping (h : MembersCorrespond ms ps) {names : List String} {slots : List Slot}
    (hslots : Json.slots names (.obj ms) = some slots) (a : Anchors) :
    slots = names.map (objectSlot ms) ∧
      Yaml.slots names a (.mapping (ps.map fun p => (nameNode p.1, p.2))) =
        some (names.map fun name => ps.lookup name) := by
  rw [Json.slots] at hslots
  split_ifs at hslots with hnames
  refine ⟨(Option.some.inj hslots).symm, ?_⟩
  rw [Yaml.slots, pairs_mapping, Option.bind_eq_bind, Option.bind_some, if_pos]
  simpa only [occurrences_eq _ h] using hnames

theorem required_of_corresponds (h : SlotCorresponds slot slot')
    (hread : ∀ j n, slot = .given j → Corresponds j n → Agrees decode read j n) (a : Anchors) :
    Carries (slot.required decode) (Yaml.Slot.required a read slot') := by
  intro x hx
  cases h with
  | given h => exact hread _ _ rfl h a x hx
  | omitted => cases hx

theorem withDefault_of_corresponds (h : SlotCorresponds slot slot')
    (hread : ∀ j n, slot = .given j → Corresponds j n → Agrees decode read j n) (a : Anchors)
    (d : α) : Carries (slot.withDefault d decode) (Yaml.Slot.withDefault a d read slot') := by
  intro x hx
  cases h with
  | given h => exact hread _ _ rfl h a x hx
  | omitted => exact hx

end

end Json

open Json

/-- An object, and no array that stands for one. -/
def Json.isObject : Json → Bool
  | .obj _ => true
  | _ => false

/-- In YAML only what an object is read as has fields. -/
theorem Json.slots_of_not_object {j : Json} {n : Yaml.Node} (h : Corresponds j n)
    (hobject : j.isObject = false) (names : List String) (a : Yaml.Anchors) :
    Yaml.slots names a n = none := by
  cases h with
  | obj h => cases hobject
  | null | str s | arr h => rfl
  | bool b => cases b <;> rfl
  | int num _ | real num _ =>
    have hempty : Yaml.Reader.isEmptyScalar (.scalar (String.ofList num.chars) .plain none) =
        false := (Bool.or_eq_false_iff.1 num.not_isNull).1
    simp only [Yaml.slots, Yaml.Reader.pairs, Yaml.Reader.follow, Option.bind_eq_bind,
      Option.bind_some, hempty]
    rfl

section

variable {j : Json} {n : Yaml.Node} {a : Yaml.Anchors}

theorem ModifierInput.agrees (h : Corresponds j n)
    (hobject : j.isObject = true) : Agrees ModifierInput.ofJson? ModifierInput.ofYaml j n := by
  intro a m hm
  cases h with
  | @obj ms ps h =>
    rw [ModifierInput.ofJson?] at hm
    split at hm
    · next key value hslots =>
      obtain ⟨hfields, hyaml⟩ := slots_mapping h hslots a
      simp only [List.map_cons, List.map_nil, List.cons.injEq, and_true] at hfields
      obtain ⟨rfl, rfl⟩ := hfields
      have text := fun name =>
        required_of_corresponds (slotCorresponds name h) (fun _ _ _ => agrees_str) a
      have hfields := (text "key").bind fun k => (text "value").bind fun v =>
        .refl (some (ModifierInput.mk k v))
      rw [ModifierInput.ofYaml, hyaml]
      exact hfields m hm
    · cases hm
  | _ => cases hobject

theorem ModifierInput.ofYaml_of_not_object (h : Corresponds j n) (hobject : j.isObject = false) :
    ModifierInput.ofYaml a n = none := by
  rw [ModifierInput.ofYaml, slots_of_not_object h hobject]
  rfl

theorem ModifierInput.mapM_ofYaml_of_not_objects {js : List Json} {ns : List Yaml.Node}
    (h : List.Forall₂ Corresponds js ns) (hobjects : js.all isObject = false) :
    ns.mapM (ModifierInput.ofYaml a) = none := by
  induction h with
  | nil => cases hobjects
  | @cons j n js ns h _ ih =>
    rw [List.mapM_cons]
    cases hj : j.isObject with
    | false =>
      rw [ModifierInput.ofYaml_of_not_object h hj]
      rfl
    | true =>
      rw [List.all_cons, hj, Bool.true_and] at hobjects
      rw [ih hobjects]
      exact Option.bind_eq_none_iff.2 fun _ _ => rfl

end

namespace ServerRequest

/-- The request is an object, and so is each of its modifiers. -/
def inObjects : Json → Bool
  | .obj ms =>
    match ms.lookup "modifiers" with
    | some (.arr js) => js.all isObject
    | _ => true
  | _ => false

section

variable {j : Json} {n : Yaml.Node} {a : Yaml.Anchors} {r : ServerRequest}
  {ms : List (String × Json)} {ps : List (String × Yaml.Node)}

theorem agrees_modifiers (hobjects : inObjects (.obj ms) = true) (j : Json) (n : Yaml.Node)
    (hslot : objectSlot ms "modifiers" = .given j) (h : Corresponds j n) :
    Agrees (list? ModifierInput.ofJson?) (Yaml.Reader.list ModifierInput.ofYaml) j n := by
  refine agrees_list h fun js hjs i hi m him => ModifierInput.agrees him ?_
  have hlookup : ms.lookup "modifiers" = some (.arr js) := by
    rw [objectSlot] at hslot
    split at hslot
    · next hlookup =>
      obtain rfl := Slot.given.inj hslot
      rw [hlookup, hjs]
    · cases hslot
  rw [inObjects, hlookup] at hobjects
  exact List.all_eq_true.1 hobjects i hi

theorem agrees (h : Corresponds j n) (hobjects : inObjects j = true) :
    Agrees ServerRequest.ofJson? ServerRequest.ofYaml j n := by
  intro a r hr
  cases h with
  | @obj ms ps h =>
    rw [ServerRequest.ofJson?] at hr
    split at hr
    · next name world password port crossplay isPublic save backups initial interval cpu memory
        modifiers hslots =>
      obtain ⟨hfields, hyaml⟩ := slots_mapping h hslots a
      simp only [fields, List.map_cons, List.map_nil, List.cons.injEq, and_true] at hfields
      obtain ⟨rfl, rfl, rfl, rfl, rfl, rfl, rfl, rfl, rfl, rfl, rfl, rfl, rfl⟩ := hfields
      have slot := fun name => slotCorresponds name h
      have text := fun name => required_of_corresponds (slot name) (fun _ _ _ => agrees_str) a
      have port := withDefault_of_corresponds (slot "port")
        (fun _ _ _ hj => agrees_nullable hj (agrees_uint16 hj)) a none
      have flag := fun name => withDefault_of_corresponds (slot name) (fun _ _ _ => agrees_bool) a
      have number := fun name => withDefault_of_corresponds (slot name)
        (fun _ _ _ hj => agrees_nullable hj (agrees_uint32 hj)) a none
      have list := withDefault_of_corresponds (slot "modifiers") (agrees_modifiers hobjects) a []
      have hfields :=
        (text "name").bind fun name => (text "world").bind fun world =>
        (text "password").bind fun password => port.bind fun port =>
        (flag "crossplay" false).bind fun crossplay => (flag "public" true).bind fun isPublic =>
        (number "save_interval_secs").bind fun save => (number "backup_count").bind fun backups =>
        (number "initial_backup_secs").bind fun initial =>
        (number "backup_interval_secs").bind fun interval =>
        (number "cpu_requests").bind fun cpu => (number "memory_requests").bind fun memory =>
        list.bind fun modifiers => .refl (some (ServerRequest.mk name world password port crossplay
          isPublic save backups initial interval cpu memory modifiers))
      rw [ServerRequest.ofYaml, hyaml]
      exact hfields r hr
    · cases hr
  | _ => cases hobjects

/-- A modifier that is written as an array is no modifier in YAML, and then the list is none. -/
theorem modifiers_of_not_objects (h : MembersCorrespond ms ps)
    (hobjects : inObjects (.obj ms) = false) : Yaml.Slot.withDefault a []
      (Yaml.Reader.list ModifierInput.ofYaml) (ps.lookup "modifiers") = none := by
  have hslot := slotCorresponds "modifiers" h
  rw [inObjects] at hobjects
  split at hobjects
  · next js hlookup =>
    rw [objectSlot, hlookup] at hslot
    generalize ps.lookup "modifiers" = slot at hslot ⊢
    cases hslot with
    | given hnode =>
      cases hnode with
      | arr hitems => exact ModifierInput.mapM_ofYaml_of_not_objects hitems hobjects
  · cases hobjects

/-- What is read from a value is read from the node only if it is in objects. -/
theorem ofYaml_node (h : Corresponds j n) (hr : ofJson? j = some r) :
    ofYaml a n = if inObjects j then some r else none := by
  cases hobjects : inObjects j with
  | true => exact agrees h hobjects a r hr
  | false =>
    cases hobject : j.isObject with
    | false =>
      rw [ofYaml, slots_of_not_object h hobject]
      rfl
    | true =>
      cases h with
      | @obj ms ps h =>
        rw [ofJson?] at hr
        split at hr
        · next hslots =>
          rw [ofYaml, (slots_mapping h hslots a).2, Option.bind_eq_bind, Option.bind_some]
          dsimp only [fields, List.map_cons, List.map_nil]
          -- whatever the twelve fields before the modifiers are
          iterate 12 refine Option.bind_eq_none_iff.2 fun _ _ => ?_
          rw [modifiers_of_not_objects h hobjects]
          rfl
        · cases hr
      | _ => cases hobject

end

open Yaml.Lexer (Opens) in
/-- What is read as a request stands in brackets. -/
theorem exists_opens {s : Source} {r : ServerRequest} (hr : ofJson? s.value = some r) :
    ∃ c t cs, Opens s c t cs := by
  cases s with
  | array is => exact ⟨_, _, _, .array is⟩
  | object ms => exact ⟨_, _, _, .object ms⟩
  | number n =>
    obtain ⟨v, h⟩ | ⟨literal, h⟩ := n.value_cases
    all_goals
      rw [Source.value, h] at hr
      cases hr
  | string ms =>
    rw [Source.value] at hr
    cases h : literalText ms <;> rw [h] at hr <;> cases hr
  | _ => cases hr

/-- A text that is read as a request in JSON is that of a document. If no string of it holds a
character that ends a line, then the one reader for requests finds the same if the document is
portable and its records are in objects, and none otherwise. -/
theorem ofText?_of_json {text : String} {r : ServerRequest} (hr : readAs ofJson? text = some r) :
    (∃ d : Document, d.text = text) ∧
    ∀ d : Document, d.text = text → d.unbroken = true →
      ofText? text = if d.portable && inObjects d.value then some r else none := by
  constructor
  · obtain ⟨j, hj, -⟩ := Option.bind_eq_some_iff.1 hr
    obtain ⟨d, hd, -⟩ := exists_document hj
    exact ⟨d, hd⟩
  · rintro d rfl hunbroken
    rw [readAs, d.parse_text, Option.bind_some] at hr
    obtain ⟨c, t, cs, hopens⟩ := exists_opens hr
    rw [ofText?, Yaml.read?, Yaml.Document.ofText?_text hopens hunbroken]
    cases hportable : d.portable with
    | false => rfl
    | true =>
      simp only [Document.portable, Bool.and_eq_true] at hportable
      exact ofYaml_node (d.root.corresponds hportable.1) hr

/-- The elements of a text without escapes. -/
def plainMarks (s : String) : List Mark :=
  s.toList.filterMap fun c =>
    if h : 0x20 ≤ c.toNat ∧ c ≠ '"' ∧ c ≠ '\\' then some (.plain c h) else none

/-- A grinning face, as it is written by who keeps to ASCII: the two halves of a pair. -/
def face : List Mark :=
  [.unicode ⟨'d', 13, rfl⟩ ⟨'8', 8, rfl⟩ ⟨'3', 3, rfl⟩ ⟨'d', 13, rfl⟩,
    .unicode ⟨'d', 13, rfl⟩ ⟨'e', 14, rfl⟩ ⟨'0', 0, rfl⟩ ⟨'0', 0, rfl⟩]

def blanks (cs : List Char) (h : cs.all isSpace = true) : Space :=
  ⟨cs, List.all_eq_true.1 h⟩

/-- The text of a request with a name as it is spelled. -/
def hall (name : List Mark) : Document where
  before := .none
  root := .object
    (.more ⟨.none, plainMarks "name", .none⟩ (blanks [' '] rfl) (.string name) .none
      (.more ⟨blanks ['\n', '\t'] rfl, plainMarks "world", blanks [' '] rfl⟩ .none
        (.string (plainMarks "Midgard")) (blanks ['\n'] rfl)
        (.more ⟨.none, plainMarks "port", .none⟩ .none
          (.number ⟨false, ⟨['2', '4', '5', '6'], by decide, List.all_eq_true.1 rfl⟩, none, none,
            by decide⟩)
          .none (.last ⟨.none, plainMarks "password", .none⟩ .none
            (.string (plainMarks "skol123")) .none))))
  after := blanks ['\n'] rfl

def hallRequest (name : String) : ServerRequest :=
  { (default : ServerRequest) with
    name, world := "Midgard", password := "skol123", port := some 2456, isPublic := true }

theorem ofText?_of_json_of_hall :
    readAs ofJson? (hall (plainMarks "Mead Hall")).text = some (hallRequest "Mead Hall") ∧
      ofText? (hall (plainMarks "Mead Hall")).text = some (hallRequest "Mead Hall") ∧
      readAs ofJson? (hall face).text = some (hallRequest "😀") ∧
      ofText? (hall face).text = none := by
  have hplain : readAs ofJson? (hall (plainMarks "Mead Hall")).text =
      some (hallRequest "Mead Hall") := by decide +kernel
  have hface : readAs ofJson? (hall face).text = some (hallRequest "😀") := by decide +kernel
  have hsame := (ofText?_of_json hplain).2 _ rfl (by decide)
  have hnone := (ofText?_of_json hface).2 _ rfl (by decide)
  exact ⟨hplain, hsame.trans (if_pos (by decide +kernel)), hface,
    hnone.trans (if_neg (by decide +kernel))⟩

/-- A request as many writers of JSON spell it. -/
def paired : String :=
  "\x7b\"name\":\"\\ud83d\\ude00 Hall\",\"world\":\"Midgard\",\"password\":\"skol123\"\x7d"

/-- Not every text of a request in JSON is one in YAML. -/
theorem exists_unread : ¬ ∀ (text : String) (r : ServerRequest),
    readAs ofJson? text = some r → ofText? text = some r := by
  intro h
  have hjson : (readAs ofJson? paired).isSome = true := by decide +kernel
  obtain ⟨r, hr⟩ := Option.isSome_iff_exists.1 hjson
  have hyaml : ofText? paired = none := by decide +kernel
  rw [h paired r hr] at hyaml
  cases hyaml

end ServerRequest

end Steading
