import Steading.Proofs.Confinement

/-!
# Tenants do not interfere

Commands of two tenants may ask by turns, in any order: each of them gets the replies it would get
alone, comes to the same result, and leaves what belongs to its tenant as if it had been alone
(`Site.alone_of_interleaves`). So it makes no difference in which order they are carried out, and
nothing that belongs to a third tenant changes (`Controller.Serves.no_interference`).
-/

namespace Steading

/-- Two programs, each with an outside of its own, ask by turns in any order and come to their
ends. -/
inductive Program.Interleaves {σ α β : Type} (o₁ o₂ : Outside σ) :
    Program α → Program β → σ → α → β → σ → Prop
  | done (a : α) (b : β) (s : σ) : Interleaves o₁ o₂ (done a) (done b) s a b s
  | left {r : Request} {next : r.Reply → Program α} {q : Program β} {s s' : σ} {a : α} {b : β}
      (h : Interleaves o₁ o₂ (next (o₁.answer r s).1) q (o₁.answer r s).2 a b s') :
      Interleaves o₁ o₂ (ask r next) q s a b s'
  | right {p : Program α} {r : Request} {next : r.Reply → Program β} {s s' : σ} {a : α} {b : β}
      (h : Interleaves o₁ o₂ p (next (o₂.answer r s).1) (o₂.answer r s).2 a b s') :
      Interleaves o₁ o₂ p (ask r next) s a b s'

namespace Program

variable {σ α β : Type} {o₁ o₂ : Outside σ}

theorem interleaves_run (o₁ o₂ : Outside σ) (p : Program α) (q : Program β) (s : σ) :
    Interleaves o₁ o₂ p q s (p.run o₁ s).1 (q.run o₂ (p.run o₁ s).2).1
      (q.run o₂ (p.run o₁ s).2).2 := by
  induction p generalizing s with
  | ask r next ih => exact .left (ih _ _)
  | done a =>
    induction q generalizing s with
    | done b => exact .done a b s
    | ask r next ih => exact .right (ih _ _)

theorem Interleaves.symm {p : Program α} {q : Program β} {s s' : σ} {a : α} {b : β}
    (h : Interleaves o₁ o₂ p q s a b s') : Interleaves o₂ o₁ q p s b a s' := by
  induction h with
  | done a b s => exact .done b a s
  | left _ ih => exact .right ih
  | right _ ih => exact .left ih

/-- Two programs ask by turns, the first one first, until one of them is at its end; then the other
goes on. -/
def alternate (o₁ o₂ : Outside σ) : Program α → Program β → σ → α × β × σ
  | done a, q, s => (a, q.run o₂ s)
  | ask r next, done b, s => (((ask r next).run o₁ s).1, b, ((ask r next).run o₁ s).2)
  | ask r next, ask r' next', s =>
    let first := o₁.answer r s
    let second := o₂.answer r' first.2
    alternate o₁ o₂ (next first.1) (next' second.1) second.2

theorem interleaves_alternate (o₁ o₂ : Outside σ) : ∀ (p : Program α) (q : Program β) (s : σ),
    Interleaves o₁ o₂ p q s (alternate o₁ o₂ p q s).1 (alternate o₁ o₂ p q s).2.1
      (alternate o₁ o₂ p q s).2.2
  | done a, q, s => interleaves_run o₁ o₂ (done a) q s
  | ask r next, done b, s => interleaves_run o₁ o₂ (ask r next) (done b) s
  | ask _ next, ask _ next', _ => .left (.right (interleaves_alternate o₁ o₂ (next _) (next' _) _))

/-- On its way from a state, a program only asks about a tenant. -/
def Stays (t : TenantId) (o : Outside σ) : Program α → σ → Prop
  | done _, _ => True
  | ask r next, s => r.Of t ∧ (next (o.answer r s).1).Stays t o (o.answer r s).2

theorem stays_of_trace {t : TenantId} {o : Outside σ} : ∀ {p : Program α} {s : σ},
    (∀ e ∈ p.trace o s, e.request.Of t) → p.Stays t o s
  | done _, _, _ => trivial
  | ask _ _, _, h => by
    obtain ⟨hr, hnext⟩ := List.forall_mem_cons.1 h
    exact ⟨hr, stays_of_trace hnext⟩

end Program

namespace Site

variable {α β : Type} {t t' t₁ t₂ : TenantId} {g g₁ g₂ : Givens} {s s' : Site}

theorem SameFor.run : ∀ {p : Program α} {s s' : Site}, p.Stays t (given g) s → s.SameFor t s' →
    p.Stays t (given g) s' ∧ (p.run (given g) s').1 = (p.run (given g) s).1 ∧
      (p.run (given g) s).2.SameFor t (p.run (given g) s').2
  | .done _, _, _, _, h => ⟨trivial, rfl, h⟩
  | .ask r next, s, s', ⟨hr, hnext⟩, h => by
    obtain ⟨hreply, hafter⟩ := h.answer hr g
    simp only [Program.Stays, Program.run, hreply]
    obtain ⟨hstays, hresult, hend⟩ := SameFor.run hnext hafter
    exact ⟨⟨hr, hstays⟩, hresult, hend⟩

/-- Of two programs that ask about different tenants, each comes to what it would have come to alone,
and nothing else changes. -/
theorem alone_of_interleaves (hne : t₁ ≠ t₂) {p : Program α} {q : Program β} {a : α} {b : β}
    (h : Program.Interleaves (given g₁) (given g₂) p q s a b s') :
    p.Stays t₁ (given g₁) s → q.Stays t₂ (given g₂) s →
      a = (p.run (given g₁) s).1 ∧ (p.run (given g₁) s).2.SameFor t₁ s' ∧
        b = (q.run (given g₂) s).1 ∧ (q.run (given g₂) s).2.SameFor t₂ s' ∧
          ∀ t, t ≠ t₁ → t ≠ t₂ → s.SameFor t s' := by
  induction h with
  | done a b s =>
    intro _ _
    exact ⟨rfl, .refl _ _, rfl, .refl _ _, fun t _ _ => .refl t s⟩
  | @left r next q s s' a b _ ih =>
    rintro ⟨hr, hp⟩ hq
    -- What `p` asks changes nothing that `q` could notice, so `q` would still come to the same.
    obtain ⟨hstays, hresult, hend⟩ := SameFor.run hq (sameFor_answer hr hne.symm g₁ s)
    obtain ⟨ha, hpart₁, hb, hpart₂, hothers⟩ := ih hp hstays
    exact ⟨ha, hpart₁, hb.trans hresult, hend.trans hpart₂, fun t h₁ h₂ =>
      (sameFor_answer hr h₁ g₁ s).trans (hothers t h₁ h₂)⟩
  | @right p r next s s' a b _ ih =>
    rintro hp ⟨hr, hq⟩
    obtain ⟨hstays, hresult, hend⟩ := SameFor.run hp (sameFor_answer hr hne g₂ s)
    obtain ⟨ha, hpart₁, hb, hpart₂, hothers⟩ := ih hstays hq
    exact ⟨ha.trans hresult, hend.trans hpart₁, hb, hpart₂, fun t h₁ h₂ =>
      (sameFor_answer hr h₂ g₂ s).trans (hothers t h₁ h₂)⟩

theorem same_of_interleaves (hne : t₁ ≠ t₂) {p : Program α} {q : Program β} {a a' : α} {b b' : β}
    {s'' : Site} (hp : p.Stays t₁ (given g₁) s) (hq : q.Stays t₂ (given g₂) s)
    (h : Program.Interleaves (given g₁) (given g₂) p q s a b s')
    (h' : Program.Interleaves (given g₁) (given g₂) p q s a' b' s'') :
    a' = a ∧ b' = b ∧ ∀ t, s''.SameFor t s' := by
  obtain ⟨ha, hpart₁, hb, hpart₂, hothers⟩ := alone_of_interleaves hne h hp hq
  obtain ⟨ha', hpart₁', hb', hpart₂', hothers'⟩ := alone_of_interleaves hne h' hp hq
  refine ⟨ha'.trans ha.symm, hb'.trans hb.symm, fun t => ?_⟩
  by_cases h₁ : t = t₁
  · subst h₁
    exact hpart₁'.symm.trans hpart₁
  · by_cases h₂ : t = t₂
    · subst h₂
      exact hpart₂'.symm.trans hpart₂
    · exact (hothers' t h₁ h₂).symm.trans (hothers t h₁ h₂)

/-- Which calls fail, and how many lookups still see a claim that is gone, is told anew. -/
def disturbed (s : Site) (failing : ClusterOp → String → Bool) (lingering : String → Nat) : Site :=
  { s with cluster := { s.cluster with failing, lingering } }

end Site

namespace Controller

variable {c : Controller} {fault : ClusterError → Prop} {ns : String} {es : List Event}
variable {t₁ t₂ : Tenant} {k₁ k₂ : Command} {g₁ g₂ : Givens} {s s' : Site}
variable {a b : Except Failure Answer}

/-- Two commands have come to what they come to one after the other, whichever is first, and
nothing that belongs to a third tenant differs. -/
structure Apart (c : Controller) (t₁ t₂ : Tenant) (k₁ k₂ : Command) (g₁ g₂ : Givens) (s : Site)
    (a b : Except Failure Answer) (s' : Site) : Prop where
  left_first :
    let first := (k₁.program c t₁).run (Site.given g₁) s
    let second := (k₂.program c t₂).run (Site.given g₂) first.2
    first.1 = a ∧ second.1 = b ∧ ∀ t, second.2.SameFor t s'
  right_first :
    let first := (k₂.program c t₂).run (Site.given g₂) s
    let second := (k₁.program c t₁).run (Site.given g₁) first.2
    second.1 = a ∧ first.1 = b ∧ ∀ t, second.2.SameFor t s'
  others : ∀ t, t ≠ t₁.id → t ≠ t₂.id → s.SameFor t s'

theorem Serves.stays (h : c.Serves fault (.empty ns) es s)
    (failing : ClusterOp → String → Bool) (lingering : String → Nat) (t : Tenant) (k : Command)
    (g : Givens) : (k.program c t).Stays t.id (Site.given g) (s.disturbed failing lingering) := by
  have run := (k.program c t).runs_run (Site.given g) (Site.habit_given g)
    (s.disturbed failing lingering)
  have hkeyed : (s.disturbed failing lingering).holdings.Keyed := h.keyed
  have hof := of_runs hkeyed (h.agrees.named t.id) (Site.runs_holdings run)
  exact Program.stays_of_trace fun e he => hof _ (List.mem_map_of_mem he)

theorem Serves.no_interference (h : c.Serves fault (.empty ns) es s)
    (failing : ClusterOp → String → Bool) (lingering : String → Nat) (hne : t₁.id ≠ t₂.id)
    (hboth : Program.Interleaves (Site.given g₁) (Site.given g₂) (k₁.program c t₁) (k₂.program c t₂)
      (s.disturbed failing lingering) a b s') :
    c.Apart t₁ t₂ k₁ k₂ g₁ g₂ (s.disturbed failing lingering) a b s' := by
  have hstays₁ := h.stays failing lingering t₁ k₁ g₁
  have hstays₂ := h.stays failing lingering t₂ k₂ g₂
  have hleft := Program.interleaves_run (Site.given g₁) (Site.given g₂) (k₁.program c t₁)
    (k₂.program c t₂) (s.disturbed failing lingering)
  have hright := Program.interleaves_run (Site.given g₂) (Site.given g₁) (k₂.program c t₂)
    (k₁.program c t₁) (s.disturbed failing lingering)
  exact ⟨Site.same_of_interleaves hne hstays₁ hstays₂ hboth hleft,
    Site.same_of_interleaves hne hstays₁ hstays₂ hboth hright.symm,
    (Site.alone_of_interleaves hne hboth hstays₁ hstays₂).2.2.2.2⟩

/-- Two tenants have servers. One is scaled down while the other is deleted, by turns; the claim of
the other may not be deleted. -/
theorem Serves.no_interference_of_neighbours :
    let other : Tenant := ⟨⟨"b", by decide, by decide⟩, "premium"⟩
    let g : Givens := ⟨.ok "203.0.113.7", 0, "5ead"⟩
    let both := (Event.ofOutside sampleOutside sample other (.create .sample) founded).after
    let s := both.disturbed (fun op name => op = .deleteClaim ∧ name = other.id.claimName) fun _ => 0
    both.store.size = 2 ∧ ∃ a b s', Program.Interleaves (Site.given g) (Site.given g)
        ((Command.scale ⟨0⟩).program sample sampleTenant) (Command.delete.program sample other) s
        a b s' ∧ a.isOk = true ∧ b.isOk = false ∧
      sample.Apart sampleTenant other (.scale ⟨0⟩) .delete g g s a b s' := by
  intro other g both s
  obtain ⟨es, hfounded⟩ := exists_serves_founded
  have hserves := hfounded.next_outside (fun _ _ => rfl) (fun _ => false) "203.0.113.7" 0 "5ead"
    other (.create .sample)
  have hturns := Program.interleaves_alternate (Site.given g) (Site.given g)
    ((Command.scale ⟨0⟩).program sample sampleTenant) (Command.delete.program sample other) s
  exact ⟨by decide +kernel, _, _, _, hturns, by decide +kernel, by decide +kernel,
    Serves.no_interference hserves _ _ (by decide) hturns⟩

end Controller

end Steading
