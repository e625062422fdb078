import Steading.Proofs.YamlTokens
import Steading.Yaml.Node

/-!
# The nodes of a JSON text in YAML

The tokens of a tree are nested as the tree is, so the document of a portable text has the tree's
own node for its root and no anchors (`Document.ofText?_text`). A name that is not marked as a key
is taken for a pair of its own, and then the colon is out of place. Each level of nesting takes at
most three units of fuel for each of its tokens.
-/

namespace Steading.Json

open Yaml (Node)

/-! ## The node of a tree -/

def Name.node (n : Name) : Node :=
  .scalar (spelled n.marks) .doubleQuoted none

mutual

def Source.node : Source → Node
  | .string ms => .scalar (spelled ms) .doubleQuoted none
  | .emptyArray _ => .sequence []
  | .array is => .sequence is.nodes
  | .emptyObject _ => .mapping []
  | .object ms => .mapping ms.nodes
  | s => .scalar (String.ofList s.chars) .plain none

def Items.nodes : Items → List Node
  | .last _ i _ => [i.node]
  | .more _ i _ is => i.node :: is.nodes

def Members.nodes : Members → List (Node × Node)
  | .last n _ v _ => [(n.node, v.node)]
  | .more n _ v _ ms => (n.node, v.node) :: ms.nodes

end

end Steading.Json

namespace Steading.Yaml.Composer

open Json (Name Source Items Members Document)

/-! ## One step of nesting -/

/-- The first tokens of a JSON value. -/
inductive Begins : Token → Prop
  | scalar (text : String) (style : ScalarStyle) : Begins (.scalar text style)
  | sequence : Begins .flowSequenceStart
  | mapping : Begins .flowMappingStart

theorem begins_source : ∀ s : Source, ∃ t ts, s.tokens = t :: ts ∧ Begins t
  | .null | .bool _ | .number _ => ⟨_, [], rfl, .scalar _ .plain⟩
  | .string _ => ⟨_, [], rfl, .scalar _ .doubleQuoted⟩
  | .emptyArray _ | .array _ => ⟨_, _, rfl, .sequence⟩
  | .emptyObject _ | .object _ => ⟨_, _, rfl, .mapping⟩

variable {block indentless first : Bool} {fuel : Nat} {t : Token} {ts : List Token}
  {handles : List (String × String)} {anchors : Anchors}

theorem node_scalar (text : String) (style : ScalarStyle) :
    node block indentless (fuel + 2) ⟨.scalar text style :: ts, handles, anchors⟩ =
      some (.scalar text style none, ⟨ts, handles, anchors⟩) :=
  rfl

theorem node_sequence :
    node block indentless (fuel + 2) ⟨.flowSequenceStart :: ts, handles, anchors⟩ =
      (flowItems true fuel ⟨ts, handles, anchors⟩).map fun p => (.sequence p.1, p.2) := by
  simp only [node, properties, content, next, List.tail_cons, Option.bind_eq_bind,
    Option.bind_some, Option.pure_def]
  cases flowItems true fuel ⟨ts, handles, anchors⟩ <;> rfl

theorem node_mapping :
    node block indentless (fuel + 2) ⟨.flowMappingStart :: ts, handles, anchors⟩ =
      (flowPairs true fuel ⟨ts, handles, anchors⟩).map fun p => (.mapping p.1, p.2) := by
  simp only [node, properties, content, next, List.tail_cons, Option.bind_eq_bind,
    Option.bind_some, Option.pure_def]
  cases flowPairs true fuel ⟨ts, handles, anchors⟩ <;> rfl

/-- What stands before an item or a pair. -/
def separator (first : Bool) : List Token :=
  if first then [] else [.flowEntry]

theorem flowItems_item (ht : Begins t) :
    flowItems first (fuel + 1) ⟨separator first ++ t :: ts, handles, anchors⟩ =
      (node false false fuel ⟨t :: ts, handles, anchors⟩).bind fun p =>
        (flowItems false fuel p.2).bind fun q => some (p.1 :: q.1, q.2) := by
  rw [flowItems]
  cases first <;> cases ht <;> simp [isAt, separator, take?, next]

theorem flowPairs_pair (name : String) (ht : Begins t) :
    flowPairs first (fuel + 4) ⟨separator first ++ .key :: .scalar name .doubleQuoted :: .value ::
      t :: ts, handles, anchors⟩ =
      (node false false (fuel + 2) ⟨t :: ts, handles, anchors⟩).bind fun p =>
        (flowPairs false (fuel + 3) p.2).bind fun q =>
          some ((.scalar name .doubleQuoted none, p.1) :: q.1, q.2) := by
  rw [flowPairs]
  cases first <;> cases ht <;>
    simp [isAt, separator, take?, next, flowPart, node_scalar]

/-- A name that is not marked as a key is a pair of its own, and no colon can follow. -/
theorem flowPairs_unmarked (name : String) : ∀ fuel,
    flowPairs first fuel ⟨separator first ++ .scalar name .doubleQuoted :: .value :: ts, handles,
      anchors⟩ = none
  | 0 => rfl
  | 1 => by
    rw [flowPairs]
    cases first <;> simp [isAt, separator, take?, next, node]
  | 2 => by
    rw [flowPairs]
    cases first <;> simp [isAt, separator, take?, next, node, properties, content]
  | fuel + 3 => by
    rw [flowPairs]
    cases first <;> simp [isAt, separator, take?, next, node_scalar, flowPairs]

/-! ## The nesting of a tree -/

mutual

/-- A tree is read as its node if each of its names is marked as a key, and not at all otherwise. -/
theorem node_source : ∀ (s : Source) (block indentless : Bool) (fuel : Nat) (ts : List Token),
    3 * s.tokens.length ≤ fuel →
      node block indentless fuel ⟨s.tokens ++ ts, handles, anchors⟩ =
        if s.isNear then some (s.node, ⟨ts, handles, anchors⟩) else none
  | .null, _, _, fuel, ts, h | .bool _, _, _, fuel, ts, h | .number _, _, _, fuel, ts, h
  | .string _, _, _, fuel, ts, h => by
    obtain ⟨fuel, rfl⟩ : ∃ fuel', fuel = fuel' + 3 :=
      ⟨fuel - 3, by simp [Source.tokens] at h; omega⟩
    rfl
  | .emptyArray _, _, _, fuel, ts, h | .emptyObject _, _, _, fuel, ts, h => by
    obtain ⟨fuel, rfl⟩ : ∃ fuel', fuel = fuel' + 3 :=
      ⟨fuel - 3, by simp [Source.tokens] at h; omega⟩
    rfl
  | .array is, _, _, fuel, ts, h => by
    rw [Source.tokens, List.length_cons] at h
    obtain ⟨fuel, rfl⟩ : ∃ fuel', fuel = fuel' + 2 := ⟨fuel - 2, by omega⟩
    have hitems := flowItems_items is true fuel ts (by omega)
    rw [separator, if_pos rfl, List.nil_append] at hitems
    rw [Source.tokens, List.cons_append, node_sequence, hitems, Source.isNear]
    cases is.isNear <;> rfl
  | .object ms, _, _, fuel, ts, h => by
    rw [Source.tokens, List.length_cons] at h
    obtain ⟨fuel, rfl⟩ : ∃ fuel', fuel = fuel' + 2 := ⟨fuel - 2, by omega⟩
    have hpairs := flowPairs_members ms true fuel ts (by omega)
    rw [separator, if_pos rfl, List.nil_append] at hpairs
    rw [Source.tokens, List.cons_append, node_mapping, hpairs, Source.isNear]
    cases ms.isNear <;> rfl

theorem flowItems_items : ∀ (is : Items) (first : Bool) (fuel : Nat) (ts : List Token),
    3 * is.tokens.length ≤ fuel →
      flowItems first fuel ⟨separator first ++ (is.tokens ++ ts), handles, anchors⟩ =
        if is.isNear then some (is.nodes, ⟨ts, handles, anchors⟩) else none
  | .last _ i _, first, fuel, ts, h => by
    simp only [Items.tokens, List.length_append, List.length_singleton] at h
    obtain ⟨fuel, rfl⟩ : ∃ fuel', fuel = fuel' + 2 := ⟨fuel - 2, by omega⟩
    obtain ⟨t, ts', htokens, ht⟩ := begins_source i
    have hitem := node_source i false false (fuel + 1) (.flowSequenceEnd :: ts) (by omega)
    rw [htokens, List.cons_append] at hitem
    rw [Items.tokens, List.append_assoc, htokens, List.cons_append, flowItems_item ht]
    rw [List.singleton_append, hitem, Items.isNear]
    cases i.isNear <;> rfl
  | .more _ i _ is, first, fuel, ts, h => by
    simp only [Items.tokens, List.length_append, List.length_cons] at h
    obtain ⟨fuel, rfl⟩ : ∃ fuel', fuel = fuel' + 1 := ⟨fuel - 1, by omega⟩
    obtain ⟨t, ts', htokens, ht⟩ := begins_source i
    have hitem := node_source i false false fuel (.flowEntry :: (is.tokens ++ ts)) (by omega)
    have hrest := flowItems_items is false fuel ts (by omega)
    rw [htokens, List.cons_append] at hitem
    rw [Items.tokens, List.append_assoc, htokens, List.cons_append, flowItems_item ht]
    rw [List.cons_append, hitem, Items.isNear]
    cases i.isNear with
    | false => rfl
    | true =>
      refine (congrArg (Option.bind · _) hrest).trans ?_
      cases is.isNear <;> rfl

theorem flowPairs_members : ∀ (ms : Members) (first : Bool) (fuel : Nat) (ts : List Token),
    3 * ms.tokens.length ≤ fuel →
      flowPairs first fuel ⟨separator first ++ (ms.tokens ++ ts), handles, anchors⟩ =
        if ms.isNear then some (ms.nodes, ⟨ts, handles, anchors⟩) else none
  | .last n _ v _, first, fuel, ts, h => by
    cases hnear : n.isNear with
    | false =>
      simp only [Members.tokens, Name.tokens, Members.isNear, hnear, Bool.false_eq_true, if_false,
        Bool.false_and, List.cons_append, List.nil_append]
      exact flowPairs_unmarked (Json.spelled n.marks) fuel
    | true =>
      simp only [Members.tokens, Name.tokens, hnear, if_true, List.length_append, List.length_cons,
        List.length_nil] at h
      obtain ⟨fuel, rfl⟩ : ∃ fuel', fuel = fuel' + 4 := ⟨fuel - 4, by omega⟩
      obtain ⟨t, ts', htokens, ht⟩ := begins_source v
      have hvalue := node_source v false false (fuel + 2) (.flowMappingEnd :: ts) (by omega)
      rw [htokens, List.cons_append] at hvalue
      simp only [Members.tokens, Name.tokens, Members.isNear, hnear, if_true, Bool.true_and,
        htokens, List.cons_append, List.nil_append, List.append_assoc,
        flowPairs_pair (Json.spelled n.marks) ht, hvalue]
      cases v.isNear <;> rfl
  | .more n _ v _ ms, first, fuel, ts, h => by
    cases hnear : n.isNear with
    | false =>
      simp only [Members.tokens, Name.tokens, Members.isNear, hnear, Bool.false_eq_true, if_false,
        Bool.false_and, List.cons_append, List.nil_append]
      exact flowPairs_unmarked (Json.spelled n.marks) fuel
    | true =>
      simp only [Members.tokens, Name.tokens, hnear, if_true, List.length_append, List.length_cons,
        List.length_nil] at h
      obtain ⟨fuel, rfl⟩ : ∃ fuel', fuel = fuel' + 4 := ⟨fuel - 4, by omega⟩
      obtain ⟨t, ts', htokens, ht⟩ := begins_source v
      have hvalue := node_source v false false (fuel + 2) (.flowEntry :: (ms.tokens ++ ts))
        (by omega)
      have hrest := flowPairs_members ms false (fuel + 3) ts (by omega)
      rw [htokens, List.cons_append] at hvalue
      simp only [Members.tokens, Name.tokens, Members.isNear, hnear, if_true, Bool.true_and,
        htokens, List.cons_append, List.nil_append, List.append_assoc,
        flowPairs_pair (Json.spelled n.marks) ht, hvalue]
      cases v.isNear with
      | false => rfl
      | true =>
        refine (congrArg (Option.bind · _) hrest).trans ?_
        cases ms.isNear <;> rfl

end

end Steading.Yaml.Composer

namespace Steading.Yaml

open Lexer (Opens)

open Composer in
theorem Document.ofTokens?_source {s : Json.Source} {c : Char} {t : Token} {cs : List Char}
    (ho : Opens s c t cs) : Document.ofTokens? s.tokens =
      if s.isNear then some ⟨some s.node, .empty⟩ else none := by
  have hnode := @node_source standardHandles .empty s true false (8 * s.tokens.length + 8) []
    (by omega)
  rw [List.append_nil] at hnode
  have hcontent : Document.ofTokens? s.tokens = Document.ofContent? [] false s.tokens := by
    cases ho <;> rfl
  simp only [hcontent, Document.ofContent?, Bool.false_and, Bool.false_eq_true, if_false,
    List.nil_append, hnode]
  cases s.isNear <;> rfl

/-- A document in brackets is read as the node of its tree if it is portable, and not at all
otherwise. -/
theorem Document.ofText?_text {d : Json.Document} {c : Char} {t : Token} {cs : List Char}
    (ho : Opens d.root c t cs) (hd : d.unbroken = true) :
    Document.ofText? d.text = if d.portable then some ⟨some d.root.node, .empty⟩ else none := by
  rw [Document.ofText?, Token.ofText?_text ho hd, Json.Document.portable]
  cases d.root.all Json.Mark.portable with
  | false => rfl
  | true =>
    cases d.untabbed with
    | false => simp
    | true =>
      refine (Document.ofTokens?_source ho).trans ?_
      rw [Bool.true_and, Bool.and_true]

end Steading.Yaml
