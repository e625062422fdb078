import Steading.Entitlement
import Steading.Failure
import Steading.Text.Quoted

/-!
# Plans

A table of entitlements by subscription, in the order of the subscriptions' names, with an optional
plan for all other subscriptions.
-/

namespace Steading

/-- Each name comes before the next one. -/
def InOrder (ps : List (String × Entitlements)) : Prop :=
  ps.Pairwise fun a b => a.1 < b.1

structure PlanTable where
  plans : List (String × Entitlements)
  inOrder : InOrder plans
  fallback : Option Entitlements

namespace PlanTable

instance : DecidableEq PlanTable
  | ⟨ps, _, f⟩, ⟨qs, _, g⟩ =>
    decidable_of_iff (ps = qs ∧ f = g) (by simp)

def empty : PlanTable :=
  ⟨[], List.Pairwise.nil, none⟩

instance : Inhabited PlanTable :=
  ⟨empty⟩

/-- Puts a plan in its place among the names; a plan of the same name makes way. -/
def insertPlan (name : String) (e : Entitlements) :
    List (String × Entitlements) → List (String × Entitlements)
  | [] => [(name, e)]
  | p :: ps =>
    if name < p.1 then (name, e) :: p :: ps
    else if name = p.1 then (name, e) :: ps
    else p :: insertPlan name e ps

theorem mem_insertPlan {name : String} {e : Entitlements} :
    ∀ {ps : List (String × Entitlements)} {q}, q ∈ insertPlan name e ps → q = (name, e) ∨ q ∈ ps
  | [], q, h => by simpa [insertPlan] using h
  | p :: ps, q, h => by
    unfold insertPlan at h
    split at h
    · simpa using h
    · split at h
      · rcases List.mem_cons.1 h with h | h
        · exact Or.inl h
        · exact Or.inr (List.mem_cons_of_mem _ h)
      · rcases List.mem_cons.1 h with rfl | h
        · exact Or.inr List.mem_cons_self
        · exact (mem_insertPlan h).imp_right (List.mem_cons_of_mem _)

theorem inOrder_insertPlan {name : String} {e : Entitlements} :
    ∀ {ps : List (String × Entitlements)}, InOrder ps → InOrder (insertPlan name e ps)
  | [], _ => List.pairwise_singleton _ _
  | p :: ps, h => by
    obtain ⟨hp, hps⟩ := List.pairwise_cons.1 h
    unfold insertPlan
    split
    · rename_i hlt
      refine List.pairwise_cons.2 ⟨fun q hq => ?_, h⟩
      rcases List.mem_cons.1 hq with rfl | hq
      · exact hlt
      · exact String.lt_trans hlt (hp q hq)
    · split
      · rename_i heq
        exact List.pairwise_cons.2 ⟨fun q hq => heq ▸ hp q hq, hps⟩
      · rename_i hlt hne
        refine List.pairwise_cons.2 ⟨fun q hq => ?_, inOrder_insertPlan hps⟩
        rcases mem_insertPlan hq with rfl | hq
        · exact Std.lt_of_le_of_ne (String.not_lt.1 hlt) (Ne.symm hne)
        · exact hp q hq

def withPlan (t : PlanTable) (name : String) (e : Entitlements) : PlanTable :=
  ⟨insertPlan name e t.plans, inOrder_insertPlan t.inOrder, t.fallback⟩

/-- The table of a list of entries; of two entries of one name the later counts. -/
def ofEntries (es : List (String × Entitlements)) (fallback : Option Entitlements) : PlanTable :=
  es.foldl (fun t e => t.withPlan e.1 e.2) ⟨[], List.Pairwise.nil, fallback⟩

/-- The plans that come with the program. -/
def builtin : PlanTable :=
  ((empty.withPlan "basic" ⟨2, 4, 2, 1, false⟩).withPlan "standard" ⟨4, 8, 5, 3, false⟩).withPlan
    "premium" ⟨8, 16, 10, 5, true⟩

def find? (t : PlanTable) (subscription : String) : Option Entitlements :=
  (t.plans.lookup subscription).or t.fallback

def entitlements (t : PlanTable) (subscription : String) : Except Failure Entitlements :=
  match t.find? subscription with
  | some e => .ok e
  | none => .error (.precondition ("no plan for subscription " ++ Text.quoted subscription))

open Json

def toJson (t : PlanTable) : Json :=
  .obj [("plans", .obj (t.plans.map fun p => (p.1, p.2.toJson))),
    ("fallback", ofOption Entitlements.toJson t.fallback)]

def entriesOfJson? : Json → Option (List (String × Entitlements))
  | .obj ms => ms.mapM fun m => (Entitlements.ofJson? m.2).map (m.1, ·)
  | _ => none

def ofJson? (j : Json) : Option PlanTable :=
  match slots ["plans", "fallback"] j with
  | some [plans, fallback] => do
    return ofEntries (← plans.withDefault [] entriesOfJson?)
      (← fallback.withDefault none (nullable Entitlements.ofJson?))
  | _ => none

end PlanTable

end Steading
