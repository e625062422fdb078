import Steading.Proofs.Finalizers

/-!
# How claims go

A claim in a simulated cluster goes when it is deleted without finalizers, or when its finalizers
are cleared while it is terminating; and it only comes to be terminating by a deletion, which
`DeletedSince` keeps track of (`SimulatedCluster.claims_go_in_order`).
-/

namespace Steading

namespace Holdings

variable {s s' : Holdings} {c : ClusterCall} {a : c.Reply} {name : String}

/-- A claim that is not there any more after something was put in its place, or in that of another
one, was put away. -/
theorem eq_of_claims_putClaim {held : Claim} {other : String} {put : Option Claim}
    (hs : s.claims name = some held) (hgone : (s.putClaim other put).claims name = none) :
    name = other ∧ put = none := by
  by_cases heq : name = other
  · subst heq
    exact ⟨rfl, (setAt_same _ _ _).symm.trans hgone⟩
  · have hsame : (s.putClaim other put).claims name = s.claims name := setAt_of_ne heq
    rw [hsame, hs] at hgone
    cases hgone

/-- A claim goes either because it has no finalizers to wait for, or because they are cleared while
it is terminating. -/
theorem Gives.of_claim_gone {held : Claim} (h : s.Gives c a s') (hs : s.claims name = some held)
    (hgone : s'.claims name = none) :
    c = .deleteClaim name ∧ held.hasFinalizers = false ∨
      c = .clearFinalizers name ∧ s.terminating name = true := by
  have hkept : s'.claims ≠ s.claims := by
    intro heq
    rw [heq, hs] at hgone
    cases hgone
  cases c with
  | createClaim c =>
    obtain ⟨-, rfl⟩ := h
    cases (eq_of_claims_putClaim hs hgone).2
  | deleteClaim other =>
    obtain ⟨c, hc, rfl⟩ := h
    split_ifs at hgone hkept with hfinalizers
    · exact absurd rfl hkept
    · obtain ⟨rfl, -⟩ := eq_of_claims_putClaim hs hgone
      obtain rfl := Option.some.inj (hs.symm.trans hc)
      exact .inl ⟨rfl, Bool.eq_false_iff.2 hfinalizers⟩
  | clearFinalizers other =>
    obtain ⟨c, -, rfl⟩ := h
    split_ifs at hgone with hterminating
    · obtain ⟨rfl, -⟩ := eq_of_claims_putClaim hs hgone
      exact .inr ⟨rfl, hterminating⟩
    · cases (eq_of_claims_putClaim hs hgone).2
  | getClaim => exact absurd (congrArg claims h) hkept
  | createDeployment | getDeployment | replaceDeployment | deleteDeployment =>
    exact absurd (congrArg claims h.2) hkept
  | scaleDeployment =>
    obtain ⟨d, -, rfl⟩ := h
    exact absurd rfl hkept

/-- A claim only comes to be terminating by its deletion. -/
theorem Gives.of_terminating (h : s.Gives c a s') (hterminating : s'.terminating name = true) :
    s.terminating name = true ∨ c = .deleteClaim name := by
  cases c with
  | deleteClaim other =>
    obtain ⟨c, -, rfl⟩ := h
    by_cases heq : name = other
    · exact .inr (heq ▸ rfl)
    · split_ifs at hterminating
      · exact .inl ((setAt_of_ne heq).symm.trans hterminating)
      · exact .inl hterminating
  | clearFinalizers other =>
    obtain ⟨c, -, rfl⟩ := h
    split_ifs at hterminating
    · by_cases heq : name = other
      · subst heq
        cases (setAt_same _ _ _).symm.trans hterminating
      · exact .inl ((setAt_of_ne heq).symm.trans hterminating)
    · exact .inl hterminating
  | getClaim => exact .inl (h ▸ hterminating)
  | createClaim | createDeployment | getDeployment | replaceDeployment | deleteDeployment =>
    obtain ⟨-, rfl⟩ := h
    exact .inl hterminating
  | scaleDeployment =>
    obtain ⟨d, -, rfl⟩ := h
    exact .inl hterminating

end Holdings

namespace SimulatedCluster

/-- A claim is there, and its deletion has been asked for since it was put in: just now, or at an
earlier event since which it has been there all along. -/
inductive DeletedSince (s : SimulatedCluster) (name : String) : List Event → Prop
  | now {es : List Event}
    (there : ((s.play (es ++ [.call (.deleteClaim name)])).claims name).isSome) :
    DeletedSince s name (es ++ [.call (.deleteClaim name)])
  | later {es : List Event} {e : Event} (before : DeletedSince s name es)
    (there : ((s.play (es ++ [e])).claims name).isSome) : DeletedSince s name (es ++ [e])

variable {s : SimulatedCluster} {c : ClusterCall} {e : Event} {es : List Event} {name : String}

/-! ## One event -/

theorem log_perform (s : SimulatedCluster) (c : ClusterCall) : (s.perform c).2.log = s.log := by
  cases c <;> simp only [perform] <;> repeat' split
  all_goals rfl

theorem log_answer (s : SimulatedCluster) (c : ClusterCall) :
    (s.answer c).2.log = s.log ++ [⟨c.op, c.target⟩] := by
  simp only [answer]
  split
  · rfl
  · exact log_perform _ c

theorem perform_of_error {error : ClusterError} (h : (s.perform c).1 = .error error) :
    (s.perform c).2 = s := by
  revert h
  cases c <;> simp only [perform] <;> repeat' split
  all_goals simp

/-- A call that fails is recorded, and that is all it does. -/
theorem answer_of_error {error : ClusterError} (h : (s.answer c).1 = .error error) :
    (s.answer c).2 = s.record c := by
  simp only [answer] at h ⊢
  split
  · rfl
  · rename_i hfailing
    rw [if_neg hfailing] at h
    exact perform_of_error h

/-- A call that goes through is given, and one that fails leaves everything as it is held. -/
theorem gives_or_eq_answer (s : SimulatedCluster) (c : ClusterCall) :
    (∃ a, (s.holdings .empty).Gives c a ((s.answer c).2.holdings .empty)) ∨
      (s.answer c).2.holdings .empty = s.holdings .empty := by
  have hanswer := s.habit_answer .empty c
  rcases hreply : (s.answer c).1 with error | a
  · rw [hreply] at hanswer
    exact .inr hanswer.2
  · rw [hreply] at hanswer
    exact .inl ⟨a, hanswer⟩

theorem of_claim_gone {held : Claim} (hs : s.claims name = some held)
    (hgone : (s.after e).claims name = none) :
    e = .call (.deleteClaim name) ∧ held.hasFinalizers = false ∨
      e = .call (.clearFinalizers name) ∧ s.terminating name = true := by
  have hkept : (s.after e).claims ≠ s.claims := by
    intro heq
    rw [heq, hs] at hgone
    cases hgone
  cases e with
  | call c =>
    rcases s.gives_or_eq_answer c with ⟨a, hgives⟩ | heq
    · rcases hgives.of_claim_gone hs hgone with ⟨rfl, hfinalizers⟩ | ⟨rfl, hterminating⟩
      · exact .inl ⟨rfl, hfinalizers⟩
      · exact .inr ⟨rfl, hterminating⟩
    · exact absurd (congrArg Holdings.claims heq) hkept
  | insertClaim c =>
    have hput : ((s.holdings .empty).putClaim c.metadata.nameOrEmpty (some c)).claims name = none :=
      hgone
    cases (Holdings.eq_of_claims_putClaim hs hput).2
  | failOn | clearFailures | linger | forgetCalls | insertDeployment => exact absurd rfl hkept

theorem of_terminating (hterminating : (s.after e).terminating name = true) :
    s.terminating name = true ∨ e = .call (.deleteClaim name) := by
  cases e with
  | call c =>
    rcases s.gives_or_eq_answer c with ⟨a, hgives⟩ | heq
    · rcases hgives.of_terminating hterminating with hbefore | rfl
      · exact .inl hbefore
      · exact .inr rfl
    · exact .inl ((congrFun (congrArg Holdings.terminating heq) name).symm.trans hterminating)
  | failOn | clearFailures | linger | forgetCalls | insertClaim | insertDeployment => exact .inl hterminating

/-! ## All events -/

/-- A claim that is terminating has been deleted since it was put in, if none was terminating in the
beginning. -/
theorem deletedSince_of_terminating (hs : (s.holdings .empty).Awaited)
    (hnone : ∀ name, s.terminating name = false) (h : s.Orderly es) :
    ∀ name, (s.play es).terminating name = true → s.DeletedSince name es := by
  induction es using List.reverseRecOn with
  | nil =>
    intro name hterminating
    rw [play, List.foldl_nil, hnone] at hterminating
    cases hterminating
  | append_singleton es e ih =>
    intro name hterminating
    have hheld := awaited_play hs h name hterminating
    have hthere : ((s.play (es ++ [e])).claims name).isSome = true := by
      obtain ⟨c, hc, -⟩ := (Option.any_eq_true _ _).1 hheld
      exact Option.isSome_iff_exists.2 ⟨c, hc⟩
    rw [play_concat] at hterminating
    rcases of_terminating hterminating with hbefore | rfl
    · exact .later (ih (orderly_concat_iff.1 h).1 name hbefore) hthere
    · exact .now hthere

/-- Whatever happens to a cluster that was empty: what is terminating is a claim with finalizers; a
claim only goes when it is deleted without them, or when they are cleared after it has been deleted;
every call is recorded once, and one that fails does nothing else. -/
theorem claims_go_in_order {ns : String} {es : List Event} (h : (empty ns).Orderly es) :
    let s := (empty ns).play es
    (∀ name, s.terminating name = true → ∃ c, s.claims name = some c ∧ c.hasFinalizers = true) ∧
    (∀ e name c, s.claims name = some c → (s.after e).claims name = none →
      e = .call (.deleteClaim name) ∧ c.hasFinalizers = false ∨
        e = .call (.clearFinalizers name) ∧ (empty ns).DeletedSince name es) ∧
    (∀ c, (s.answer c).2.log = s.log ++ [⟨c.op, c.target⟩]) ∧
    ∀ c error, (s.answer c).1 = .error error →
      (s.answer c).2.claims = s.claims ∧ (s.answer c).2.deployments = s.deployments ∧
        (s.answer c).2.terminating = s.terminating ∧ (s.answer c).2.lingering = s.lingering := by
  have hempty := awaited_empty ns .empty
  refine ⟨fun name hterminating => ?_, fun e name c hc hgone => ?_, log_answer _,
    fun c error herror => ?_⟩
  · exact (Option.any_eq_true _ _).1 (awaited_play hempty h name hterminating)
  · rcases of_claim_gone hc hgone with hdeleted | ⟨rfl, hterminating⟩
    · exact .inl hdeleted
    · exact .inr ⟨rfl, deletedSince_of_terminating hempty (fun _ => rfl) h name hterminating⟩
  · rw [answer_of_error herror]
    exact ⟨rfl, rfl, rfl, rfl⟩

/-- A claim under protection is deleted and stays until the protection is lifted. -/
theorem claims_go_in_order_of_protected :
    let hoard : Claim :=
      { metadata := { name := some "hoard", finalizers := some ["kubernetes.io/pvc-protection"] } }
    let es : List Event := [.insertClaim hoard, .call (.deleteClaim "hoard"), .linger "hoard" 2]
    let s := (empty "longhall").play es
    (∃ c, s.claims "hoard" = some c ∧ c.hasFinalizers = true) ∧
      (empty "longhall").DeletedSince "hoard" es := by
  intro hoard es s
  have horderly : (empty "longhall").Orderly es := ⟨rfl, trivial⟩
  obtain ⟨hwaits, hgoes, -⟩ := claims_go_in_order horderly
  obtain ⟨c, hc, hfinalizers⟩ := hwaits "hoard" rfl
  refine ⟨⟨c, hc, hfinalizers⟩, ?_⟩
  rcases hgoes (.call (.clearFinalizers "hoard")) "hoard" c hc rfl with ⟨hdelete, -⟩ | ⟨-, hsince⟩
  · cases hdelete
  · exact hsince

end SimulatedCluster

end Steading
