import Steading.Proofs.Redaction
import Steading.Proofs.Run

/-!
# Programs in lockstep

Two programs are alike if they ask the same but for what is redacted, request by request, whenever
what they are replied is the same but for what is redacted. Against surroundings that only differ in
what is redacted, such programs go side by side to the end (`Program.Alike.run`).

A program is alike to itself if there is nothing to redact in the replies it may get
(`Program.alike_of_asks`).
-/

namespace Steading

/-- There is nothing to redact in the reply. -/
def Request.IsOpen : Request → Prop
  | cluster (.getDeployment _) | store (.find _) | freshId => False
  | _ => True

theorem Except.map_injective {ε α β : Type} {f : α → β} (hf : Function.Injective f) :
    Function.Injective (Except.map f : Except ε α → Except ε β)
  | .error _, .error _, h => congrArg Except.error (Except.error.inj h)
  | .ok _, .ok _, h => congrArg Except.ok (hf (Except.ok.inj h))
  | .error _, .ok _, h => by cases h
  | .ok _, .error _, h => by cases h

theorem Request.IsOpen.injective {r : Request} (h : r.IsOpen) :
    Function.Injective r.redactReply := by
  cases r with
  | cluster c =>
    cases c with
    | getDeployment name => exact h.elim
    | _ => exact Except.map_injective Function.injective_id
  | store c =>
    cases c with
    | find t => exact h.elim
    | _ => exact Except.map_injective Function.injective_id
  | freshId => exact h.elim
  | address | now | pause => exact Function.injective_id

/-- The same happens in two mappings, or what is mapped to the same comes out of both. -/
theorem cases_of_heq_map {ε α α' β β' : Type} (hβ : β = β') {f : α → β} {f' : α' → β'}
    {x : Except ε α} {x' : Except ε α'} (h : HEq (x.map f) (x'.map f')) :
    (∃ e, x = .error e ∧ x' = .error e) ∨ ∃ a a', x = .ok a ∧ x' = .ok a' ∧ HEq (f a) (f' a') := by
  subst hβ
  have h := eq_of_heq h
  cases x with
  | error e =>
    cases x' with
    | error e' => exact .inl ⟨e, rfl, congrArg Except.error (Except.error.inj h).symm⟩
    | ok a' => cases h
  | ok a =>
    cases x' with
    | error e' => cases h
    | ok a' => exact .inr ⟨a, a', rfl, rfl, heq_of_eq (Except.ok.inj h)⟩

/-- What may be told of the outside does not depend on what is redacted, and as long as states are
related they stay so. -/
def Outside.Alike {σ : Type} (E : σ → σ → Prop) (o o' : Outside σ) : Prop :=
  ∀ {r r' : Request} {s s' : σ}, r.redacted = r'.redacted → E s s' →
    HEq (r.redactReply (o.answer r s).1) (r'.redactReply (o'.answer r' s').1) ∧
      E (o.answer r s).2 (o'.answer r' s').2

theorem Simulation.alike_drawing (ids ids' : Nat → String) :
    (drawing ids).Alike (fun s s' => s.redacted = s'.redacted) (drawing ids') := by
  intro r r' s s' hr hs
  have h := answer_redacted ids r s
  have h' := answer_redacted ids' r' s'
  have hboth : HEq ((drawing fun _ => "").answer r.redacted s.redacted).1
      ((drawing fun _ => "").answer r'.redacted s'.redacted).1 := by rw [hr, hs]
  have hafter : ((drawing fun _ => "").answer r.redacted s.redacted).2 =
      ((drawing fun _ => "").answer r'.redacted s'.redacted).2 := by rw [hr, hs]
  rw [h, h'] at hboth hafter
  exact ⟨hboth, hafter⟩

namespace Program

variable {σ α α' β β' : Type}

/-- Two programs ask the same but for what is redacted, as long as they are replied the same but for
what is redacted, and their ends are related. -/
inductive Alike (R : α → α' → Prop) : Program α → Program α' → Prop
  | done {a : α} {a' : α'} (h : R a a') : Alike R (done a) (done a')
  | ask {r r' : Request} {next : r.Reply → Program α} {next' : r'.Reply → Program α'}
      (h : r.redacted = r'.redacted)
      (hnext : ∀ x x', HEq (r.redactReply x) (r'.redactReply x') → Alike R (next x) (next' x')) :
      Alike R (ask r next) (ask r' next')

variable {R : α → α' → Prop} {S : β → β' → Prop} {p : Program α} {p' : Program α'}

theorem Alike.run {E : σ → σ → Prop} {o o' : Outside σ} (ho : o.Alike E o') (h : p.Alike R p') :
    ∀ {s s' : σ}, E s s' →
      R (p.run o s).1 (p'.run o' s').1 ∧ E (p.run o s).2 (p'.run o' s').2 := by
  induction h with
  | done h => exact fun hs => ⟨h, hs⟩
  | ask h _ ih =>
    intro s s' hs
    obtain ⟨hreply, hs⟩ := ho h hs
    exact ih _ _ hreply hs

theorem Alike.bind {f : α → Program β} {f' : α' → Program β'} (h : p.Alike R p')
    (hf : ∀ a a', R a a' → (f a).Alike S (f' a')) : (p >>= f).Alike S (p' >>= f') := by
  induction h with
  | done h => exact hf _ _ h
  | ask h _ ih => exact .ask h ih

theorem Alike.map {f : α → β} {f' : α' → β'} (h : p.Alike R p')
    (hf : ∀ a a', R a a' → S (f a) (f' a')) : (f <$> p).Alike S (f' <$> p') := by
  rw [map_eq_pure_bind, map_eq_pure_bind]
  exact h.bind fun a a' ha => .done (hf a a' ha)

theorem Alike.mono {R' : α → α' → Prop} (hR : ∀ a a', R a a' → R' a a') (h : p.Alike R p') :
    p.Alike R' p' := by
  induction h with
  | done h => exact .done (hR _ _ h)
  | ask h _ ih => exact .ask h ih

theorem alike_request {r r' : Request} (h : r.redacted = r'.redacted) :
    (request r).Alike (fun x x' => HEq (r.redactReply x) (r'.redactReply x')) (request r') :=
  .ask h fun _ _ hx => .done hx

theorem alike_of_asks (h : p.Asks Request.IsOpen) : p.Alike Eq p := by
  induction p with
  | done a => exact .done rfl
  | ask r next ih =>
    refine .ask rfl fun x x' hx => ?_
    obtain rfl := h.1.injective (eq_of_heq hx)
    exact ih x (h.2 x)

end Program

namespace Operation

variable {α α' β β' ε : Type}

/-- Two operations have both come to results, which are related, or both broken off in one way. -/
inductive SameEnd (R : α → α' → Prop) : Except Failure α → Except Failure α' → Prop
  | ok {a : α} {a' : α'} (h : R a a') : SameEnd R (.ok a) (.ok a')
  | error (f : Failure) : SameEnd R (.error f) (.error f)

def Alike (R : α → α' → Prop) (x : Operation α) (x' : Operation α') : Prop :=
  x.run.Alike (SameEnd R) x'.run

variable {R : α → α' → Prop} {S : β → β' → Prop} {x : Operation α} {x' : Operation α'}

theorem Alike.bind {f : α → Operation β} {f' : α' → Operation β'} (h : x.Alike R x')
    (hf : ∀ a a', R a a' → (f a).Alike S (f' a')) : (x >>= f).Alike S (x' >>= f') := by
  rw [Alike, ExceptT.run_bind, ExceptT.run_bind]
  refine Program.Alike.bind h fun result result' hresult => ?_
  cases hresult with
  | ok h => exact hf _ _ h
  | error f => exact .done (.error f)

theorem Alike.mono {R' : α → α' → Prop} (hR : ∀ a a', R a a' → R' a a') (h : x.Alike R x') :
    x.Alike R' x' :=
  Program.Alike.mono (fun _ _ hresult => match hresult with
    | .ok h => .ok (hR _ _ h)
    | .error f => .error f) h

theorem alike_pure {a : α} {a' : α'} (h : R a a') :
    Alike R (pure a) (pure a') :=
  .done (.ok h)

theorem alike_throw (f : Failure) : Alike R (throw f) (throw f) :=
  .done (.error f)

theorem alike_throw_bind (f : Failure) (g : α → Operation β) (g' : α' → Operation β') :
    Alike S (throw f >>= g) (throw f >>= g') :=
  .done (.error f)

theorem Alike.map {f : α → β} {f' : α' → β'} (h : x.Alike R x')
    (hf : ∀ a a', R a a' → S (f a) (f' a')) : (f <$> x).Alike S (f' <$> x') := by
  rw [map_eq_pure_bind, map_eq_pure_bind]
  exact h.bind fun a a' ha => alike_pure (hf a a' ha)

theorem alike_lift {p : Program α} {p' : Program α'} (h : p.Alike R p') :
    Alike R (ExceptT.lift p) (ExceptT.lift p') := by
  rw [Alike, ExceptT.run_lift, ExceptT.run_lift]
  exact h.map fun _ _ => .ok

theorem alike_ofProgram {g : ε → Failure} {p p' : Program (Except ε α)} (h : p.Alike Eq p') :
    (ofProgram g p).Alike Eq (ofProgram g p') := by
  refine h.map fun result _ hresult => ?_
  subst hresult
  cases result with
  | ok a => exact .ok rfl
  | error e => exact .error _

theorem alike_of_asks (h : x.run.Asks Request.IsOpen) : x.Alike Eq x := by
  refine (Program.alike_of_asks h).mono fun result _ hresult => ?_
  subst hresult
  cases result with
  | ok a => exact .ok rfl
  | error f => exact .error f

theorem alike_store {c c' : StoreCall} (h : c.redacted = c'.redacted) :
    (store c).Alike (fun a a' => HEq (c.redactReply a) (c'.redactReply a')) (store c') := by
  have hrequest : (Request.store c).redacted = (Request.store c').redacted :=
    congrArg Request.store h
  refine (Program.alike_request hrequest).map fun reply reply' hreply => ?_
  obtain ⟨e, rfl, rfl⟩ | ⟨a, a', rfl, rfl, ha⟩ :=
    cases_of_heq_map (congrArg StoreCall.Reply h) hreply
  · exact .error _
  · exact .ok ha

theorem alike_call {c c' : ClusterCall} (h : c.redacted = c'.redacted) :
    (call c).Alike (fun a a' => HEq (c.redactReply a) (c'.redactReply a')) (call c') := by
  have hrequest : (Request.cluster c).redacted = (Request.cluster c').redacted :=
    congrArg Request.cluster h
  refine (Program.alike_request hrequest).map fun reply reply' hreply => ?_
  obtain ⟨e, rfl, rfl⟩ | ⟨a, a', rfl, rfl, ha⟩ :=
    cases_of_heq_map (congrArg ClusterCall.Reply h) hreply
  · exact .error _
  · exact .ok ha

end Operation

end Steading
