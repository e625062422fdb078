import Steading.Lifecycle

/-!
# Runs

A program asks and its surroundings reply. Of the surroundings only a habit is known: which replies
they may give in which state, and what state each of them leaves behind. `Program.Runs` says how a
program may go against a habit, exchange by exchange.

`Program.Ensures` is what must hold of a state so that the program only makes requests that are
allowed where it makes them and comes to an end as it should; it is a recursion over the program,
and `Program.Ensures.of_runs` turns it into a statement about runs. An operation may end in two
ways, and `Operation.Ensures` has a condition for either.
-/

namespace Steading

/-- How surroundings may reply to a request in a state, and in what state they are then. -/
abbrev Habit (σ : Type) : Type :=
  (r : Request) → σ → r.Reply → σ → Prop

/-- To do as an outside does. -/
def Outside.habit {σ : Type} (o : Outside σ) : Habit σ :=
  fun r s reply s' => o.answer r s = (reply, s')

/-- A request, the state it was made in, and the reply it got. -/
structure Exchange (σ : Type) where
  state : σ
  request : Request
  reply : request.Reply

def Exchange.map {σ τ : Type} (φ : σ → τ) (e : Exchange σ) : Exchange τ :=
  ⟨φ e.state, e.request, e.reply⟩

/-- What is said in an exchange, whatever the state is. -/
def Exchange.said {σ : Type} (e : Exchange σ) : Exchange Unit :=
  e.map fun _ => ()

/-- To reply anything to anything. -/
def Habit.any : Habit Unit :=
  fun _ _ _ _ => True

/-- These exchanges may be had one after the other, as far as the surroundings go. -/
inductive Habit.Gives {σ : Type} (may : Habit σ) : σ → List (Exchange σ) → σ → Prop
  | nil (s : σ) : Gives may s [] s
  | cons {r : Request} {s s₁ s₂ : σ} {reply : r.Reply} {es : List (Exchange σ)}
      (h : may r s reply s₁) (rest : Gives may s₁ es s₂) :
      Gives may s (⟨s, r, reply⟩ :: es) s₂

namespace Program

variable {σ τ α β : Type}

/-- From a state, with these exchanges, a program may come to a result and leave a state. -/
inductive Runs (may : Habit σ) : Program α → σ → List (Exchange σ) → α → σ → Prop
  | done (a : α) (s : σ) : Runs may (done a) s [] a s
  | ask {r : Request} {next : r.Reply → Program α} {s s₁ s₂ : σ} {reply : r.Reply}
      {es : List (Exchange σ)} {a : α} (h : may r s reply s₁)
      (run : Runs may (next reply) s₁ es a s₂) :
      Runs may (ask r next) s (⟨s, r, reply⟩ :: es) a s₂

/-- The exchanges of a program with an outside. -/
def trace (o : Outside σ) : Program α → σ → List (Exchange σ)
  | done _, _ => []
  | ask r next, s => ⟨s, r, (o.answer r s).1⟩ :: (next (o.answer r s).1).trace o (o.answer r s).2

/-- A run stays a run where less is told of the states. -/
theorem Runs.map {may : Habit σ} {may' : Habit τ} {φ : σ → τ}
    (h : ∀ r s reply s', may r s reply s' → may' r (φ s) reply (φ s')) {p : Program α} {s s' : σ}
    {es : List (Exchange σ)} {a : α} (run : p.Runs may s es a s') :
    p.Runs may' (φ s) (es.map (Exchange.map φ)) a (φ s') := by
  induction run with
  | done a s => exact .done a (φ s)
  | ask hr _ ih => exact .ask (h _ _ _ _ hr) ih

/-- The same if it takes an invariant of the states, and that nothing else is asked, to tell. -/
theorem Runs.map_of {may : Habit σ} {may' : Habit τ} {φ : σ → τ} {asked : Request → Prop}
    {I : σ → Prop}
    (h : ∀ r s reply s', asked r → I s → may r s reply s' → may' r (φ s) reply (φ s') ∧ I s')
    {p : Program α} {s s' : σ} {es : List (Exchange σ)} {a : α} (run : p.Runs may s es a s')
    (hes : ∀ e ∈ es, asked e.request) (hs : I s) :
    p.Runs may' (φ s) (es.map (Exchange.map φ)) a (φ s') ∧ I s' := by
  induction run with
  | done a s => exact ⟨.done a (φ s), hs⟩
  | ask hr _ ih =>
    obtain ⟨hasked, hes⟩ := List.forall_mem_cons.1 hes
    obtain ⟨hr', hs₁⟩ := h _ _ _ _ hasked hs hr
    obtain ⟨run, hs'⟩ := ih hes hs₁
    exact ⟨.ask hr' run, hs'⟩

/-- What every reply to such a request preserves holds after a run in which nothing else is
asked. -/
theorem Runs.invariant_of {may : Habit σ} {asked : Request → Prop} {I : σ → Prop}
    (h : ∀ r s reply s', asked r → may r s reply s' → I s → I s') {p : Program α} {s s' : σ}
    {es : List (Exchange σ)} {a : α} (run : p.Runs may s es a s')
    (hes : ∀ e ∈ es, asked e.request) (hs : I s) : I s' := by
  induction run with
  | done a s => exact hs
  | ask hr _ ih =>
    obtain ⟨hasked, hes⟩ := List.forall_mem_cons.1 hes
    exact ih hes (h _ _ _ _ hasked hr hs)

/-- Surroundings that reply in more ways may reply in these. -/
theorem Runs.of_habit {may may' : Habit σ} (h : ∀ r s reply s', may r s reply s' → may' r s reply s')
    {p : Program α} {s s' : σ} {es : List (Exchange σ)} {a : α} (run : p.Runs may s es a s') :
    p.Runs may' s es a s' := by
  induction run with
  | done a s => exact .done a s
  | ask hr _ ih => exact .ask (h _ _ _ _ hr) ih

/-- What every single reply preserves holds all through a run. -/
theorem Runs.invariant {may : Habit σ} {I : σ → Prop}
    (h : ∀ r s reply s', may r s reply s' → I s → I s') {p : Program α} {s s' : σ}
    {es : List (Exchange σ)} {a : α} (run : p.Runs may s es a s') (hs : I s) :
    (∀ e ∈ es, I e.state) ∧ I s' := by
  induction run with
  | done a s => exact ⟨by simp, hs⟩
  | ask hr _ ih =>
    obtain ⟨h₁, h₂⟩ := ih (h _ _ _ _ hr hs)
    exact ⟨List.forall_mem_cons.2 ⟨hs, h₁⟩, h₂⟩

/-- A run is what the program would say to anyone, in exchanges that the surroundings give. -/
theorem runs_iff_said {may : Habit σ} {p : Program α} {s s' : σ} {es : List (Exchange σ)} {a : α} :
    p.Runs may s es a s' ↔
      p.Runs Habit.any () (es.map Exchange.said) a () ∧ may.Gives s es s' := by
  constructor
  · intro run
    induction run with
    | done a s => exact ⟨.done a (), .nil s⟩
    | ask h _ ih => exact ⟨.ask trivial ih.1, .cons h ih.2⟩
  · rintro ⟨run, hgives⟩
    induction hgives generalizing p with
    | nil s =>
      cases run
      exact .done a s
    | cons h _ ih =>
      cases run with
      | ask _ run => exact .ask h (ih run)

section

variable {may : Habit σ} {s s' : σ} {es : List (Exchange σ)}

@[simp]
theorem runs_pure {a b : α} :
    (pure a : Program α).Runs may s es b s' ↔ es = [] ∧ b = a ∧ s' = s := by
  constructor
  · intro run
    cases run
    exact ⟨rfl, rfl, rfl⟩
  · rintro ⟨rfl, rfl, rfl⟩
    exact .done _ _

theorem runs_ask {r : Request} {next : r.Reply → Program α} {a : α} :
    (ask r next).Runs may s es a s' ↔
      ∃ reply s₁ es₁, may r s reply s₁ ∧ (next reply).Runs may s₁ es₁ a s' ∧
        es = ⟨s, r, reply⟩ :: es₁ := by
  constructor
  · intro run
    cases run with
    | ask h run => exact ⟨_, _, _, h, run, rfl⟩
  · rintro ⟨reply, s₁, es₁, h, run, rfl⟩
    exact .ask h run

theorem runs_request {r : Request} {reply : r.Reply} :
    (request r).Runs may s es reply s' ↔ es = [⟨s, r, reply⟩] ∧ may r s reply s' := by
  constructor
  · intro run
    cases run with
    | ask h run =>
      cases run
      exact ⟨rfl, h⟩
  · rintro ⟨rfl, h⟩
    exact .ask h (.done _ _)

/-- What is asked by one program after the other is what the one asks and then what the other
does. -/
theorem runs_bind {p : Program α} {f : α → Program β} {b : β} :
    (p >>= f).Runs may s es b s' ↔
      ∃ es₁ a s₁ es₂, p.Runs may s es₁ a s₁ ∧ (f a).Runs may s₁ es₂ b s' ∧ es = es₁ ++ es₂ := by
  induction p generalizing s es with
  | done a =>
    constructor
    · intro run
      exact ⟨[], a, s, es, .done a s, run, rfl⟩
    · rintro ⟨es₁, a', s₁, es₂, run₁, run₂, rfl⟩
      cases run₁
      exact run₂
  | ask r next ih =>
    constructor
    · intro run
      cases run with
      | ask h run =>
        obtain ⟨es₁, a, s₁, es₂, run₁, run₂, rfl⟩ := (ih _).1 run
        exact ⟨_, a, s₁, es₂, .ask h run₁, run₂, rfl⟩
    · rintro ⟨es₁, a, s₁, es₂, run₁, run₂, rfl⟩
      cases run₁ with
      | ask h run₁ => exact .ask h ((ih _).2 ⟨_, a, s₁, es₂, run₁, run₂, rfl⟩)

theorem runs_map {f : α → β} {p : Program α} {b : β} :
    (f <$> p).Runs may s es b s' ↔ ∃ a, p.Runs may s es a s' ∧ b = f a := by
  rw [map_eq_pure_bind, runs_bind]
  constructor
  · rintro ⟨es₁, a, s₁, es₂, run₁, run₂, rfl⟩
    obtain ⟨rfl, rfl, rfl⟩ := runs_pure.1 run₂
    rw [List.append_nil]
    exact ⟨a, run₁, rfl⟩
  · rintro ⟨a, run, rfl⟩
    exact ⟨es, a, s', [], run, .done _ _, (List.append_nil es).symm⟩

end

/-- Every request is `allowed` in the state it is made in, and every end is as `post` says. -/
def Ensures (may : Habit σ) (allowed : Request → σ → Prop) (post : α → σ → Prop) :
    Program α → σ → Prop
  | done a, s => post a s
  | ask r next, s =>
    allowed r s ∧ ∀ reply s', may r s reply s' → (next reply).Ensures may allowed post s'

section

variable {may : Habit σ} {allowed : Request → σ → Prop}

/-- What an outside makes of a program is a run against the outside's own habit. -/
theorem runs_habit (o : Outside σ) (p : Program α) (s : σ) :
    p.Runs o.habit s (p.trace o s) (p.run o s).1 (p.run o s).2 := by
  induction p generalizing s with
  | done a => exact .done a s
  | ask r next ih => exact .ask rfl (ih _ _)

theorem Ensures.of_runs {p : Program α} {post : α → σ → Prop} {s s' : σ}
    {es : List (Exchange σ)} {a : α} (h : p.Ensures may allowed post s)
    (run : p.Runs may s es a s') : (∀ e ∈ es, allowed e.request e.state) ∧ post a s' := by
  induction run with
  | done a s => exact ⟨by simp, h⟩
  | ask hr _ ih =>
    obtain ⟨h₁, h₂⟩ := ih (h.2 _ _ hr)
    exact ⟨List.forall_mem_cons.2 ⟨h.1, h₁⟩, h₂⟩

/-- A program that only makes allowed requests as long as it is told no more than its surroundings
may say makes no others in a run in which they keep to that. It is enough that they do after allowed
requests, and that these leave an invariant as it is; of each exchange something may be known
before. -/
theorem Ensures.invariant_of_runs {told : Habit Unit} {asked : Request → Prop}
    {K : Exchange σ → Prop} {I : σ → Prop} {post : α → Unit → Prop}
    (step : ∀ r s reply s', asked r → K ⟨s, r, reply⟩ → I s → may r s reply s' →
      told r () reply () ∧ I s')
    {p : Program α} {s s' : σ} {es : List (Exchange σ)} {a : α}
    (h : p.Ensures told (fun r _ => asked r) post ()) (run : p.Runs may s es a s')
    (hes : ∀ e ∈ es, K e) (hs : I s) :
    (∀ e ∈ es, asked e.request ∧ I e.state) ∧ I s' := by
  induction run with
  | done a s => exact ⟨by simp, hs⟩
  | ask hr _ ih =>
    obtain ⟨hknown, hes⟩ := List.forall_mem_cons.1 hes
    obtain ⟨htold, hs₁⟩ := step _ _ _ _ h.1 hknown hs hr
    obtain ⟨h₁, h₂⟩ := ih (h.2 _ () htold) hes hs₁
    exact ⟨List.forall_mem_cons.2 ⟨⟨h.1, hs⟩, h₁⟩, h₂⟩

/-- What an outside makes of a program is a run against every habit that the outside keeps to. -/
theorem runs_run (o : Outside σ) (ho : ∀ r s, may r s (o.answer r s).1 (o.answer r s).2)
    (p : Program α) (s : σ) : p.Runs may s (p.trace o s) (p.run o s).1 (p.run o s).2 := by
  induction p generalizing s with
  | done a => exact .done a s
  | ask r next ih => exact .ask (ho r s) (ih _ _)

theorem Ensures.mono {p : Program α} {post post' : α → σ → Prop}
    (hp : ∀ a s, post a s → post' a s) {s : σ} (h : p.Ensures may allowed post s) :
    p.Ensures may allowed post' s := by
  induction p generalizing s with
  | done a => exact hp a s h
  | ask r next ih => exact ⟨h.1, fun reply s' hr => ih reply (h.2 reply s' hr)⟩

theorem Ensures.and {p : Program α} {post post' : α → σ → Prop} {s : σ}
    (h : p.Ensures may allowed post s) (h' : p.Ensures may allowed post' s) :
    p.Ensures may allowed (fun a s => post a s ∧ post' a s) s := by
  induction p generalizing s with
  | done a => exact ⟨h, h'⟩
  | ask r next ih => exact ⟨h.1, fun reply s' hr => ih reply (h.2 reply s' hr) (h'.2 reply s' hr)⟩

/-- Surroundings that reply in fewer ways are no harder to deal with. -/
theorem Ensures.of_habit {may' : Habit σ}
    (h : ∀ r s reply s', may' r s reply s' → may r s reply s') {p : Program α}
    {post : α → σ → Prop} {s : σ} (hp : p.Ensures may allowed post s) :
    p.Ensures may' allowed post s := by
  induction p generalizing s with
  | done a => exact hp
  | ask r next ih => exact ⟨hp.1, fun reply s' hr => ih reply (hp.2 reply s' (h _ _ _ _ hr))⟩

@[simp]
theorem ensures_pure (a : α) (post : α → σ → Prop) (s : σ) :
    (pure a : Program α).Ensures may allowed post s ↔ post a s :=
  Iff.rfl

@[simp]
theorem ensures_bind (p : Program α) (f : α → Program β) (post : β → σ → Prop) (s : σ) :
    (p >>= f).Ensures may allowed post s ↔
      p.Ensures may allowed (fun a s' => (f a).Ensures may allowed post s') s := by
  induction p generalizing s with
  | done a => exact Iff.rfl
  | ask r next ih =>
    exact and_congr_right' (forall_congr' fun reply => forall_congr' fun s' =>
      forall_congr' fun _ => ih reply s')

@[simp]
theorem ensures_map (f : α → β) (p : Program α) (post : β → σ → Prop) (s : σ) :
    (f <$> p).Ensures may allowed post s ↔
      p.Ensures may allowed (fun a s' => post (f a) s') s := by
  rw [map_eq_pure_bind, ensures_bind]
  simp only [ensures_pure]

@[simp]
theorem ensures_request (r : Request) (post : r.Reply → σ → Prop) (s : σ) :
    (request r).Ensures may allowed post s ↔
      allowed r s ∧ ∀ reply s', may r s reply s' → post reply s' :=
  Iff.rfl

end

/-- Whatever is replied, the program makes only such requests. -/
def Asks (asked : Request → Prop) : Program α → Prop
  | done _ => True
  | ask r next => asked r ∧ ∀ reply, (next reply).Asks asked

section

variable {asked : Request → Prop}

@[simp]
theorem asks_pure (a : α) : (pure a : Program α).Asks asked :=
  trivial

@[simp]
theorem asks_request (r : Request) : (request r).Asks asked ↔ asked r := by
  simp [request, Asks]

theorem Asks.bind {p : Program α} {f : α → Program β} (hp : p.Asks asked)
    (hf : ∀ a, (f a).Asks asked) : (p >>= f).Asks asked := by
  induction p with
  | done a => exact hf a
  | ask r next ih => exact ⟨hp.1, fun reply => ih reply (hp.2 reply)⟩

theorem Asks.of_runs {may : Habit σ} {p : Program α} {s s' : σ} {es : List (Exchange σ)} {a : α}
    (hp : p.Asks asked) (run : p.Runs may s es a s') : ∀ e ∈ es, asked e.request := by
  induction run with
  | done => simp
  | ask _ _ ih => exact List.forall_mem_cons.2 ⟨hp.1, ih (hp.2 _)⟩

/-- What every reply to such a request preserves still holds when the program has come to its
end. -/
theorem Asks.ensures {may : Habit σ} {p : Program α} (hp : p.Asks asked) {I : σ → Prop}
    (step : ∀ r s reply s', asked r → may r s reply s' → I s → I s')
    {allowed : Request → σ → Prop} (hallowed : ∀ r s, asked r → I s → allowed r s) {s : σ}
    (hs : I s) : p.Ensures may allowed (fun _ => I) s := by
  induction p generalizing s with
  | done a => exact hs
  | ask r next ih =>
    exact ⟨hallowed r s hp.1 hs, fun reply s' hr =>
      ih reply (hp.2 reply) (step r s reply s' hp.1 hr hs)⟩

end

end Program

namespace Operation

variable {σ α β ε : Type}

section

variable {may : Habit σ} {s s' : σ} {es : List (Exchange σ)}

/-- An operation that goes on after another one has either come to that point or broken off before
it. -/
theorem runs_bind {x : Operation α} {f : α → Operation β} {result : Except Failure β} :
    (x >>= f).run.Runs may s es result s' ↔
      (∃ es₁ a s₁ es₂, x.run.Runs may s es₁ (.ok a) s₁ ∧ (f a).run.Runs may s₁ es₂ result s' ∧
          es = es₁ ++ es₂) ∨
        ∃ failure, x.run.Runs may s es (.error failure) s' ∧ result = .error failure := by
  rw [ExceptT.run_bind, Program.runs_bind]
  constructor
  · rintro ⟨es₁, result₁, s₁, es₂, run₁, run₂, rfl⟩
    cases result₁ with
    | ok a => exact .inl ⟨es₁, a, s₁, es₂, run₁, run₂, rfl⟩
    | error failure =>
      obtain ⟨rfl, rfl, rfl⟩ := Program.runs_pure.1 run₂
      rw [List.append_nil]
      exact .inr ⟨failure, run₁, rfl⟩
  · rintro (⟨es₁, a, s₁, es₂, run₁, run₂, rfl⟩ | ⟨failure, run, rfl⟩)
    · exact ⟨es₁, .ok a, s₁, es₂, run₁, run₂, rfl⟩
    · exact ⟨es, .error failure, s', [], run, .done _ _, (List.append_nil es).symm⟩

theorem runs_map {g : α → β} {x : Operation α} {result : Except Failure β} :
    (g <$> x).run.Runs may s es result s' ↔
      ∃ result', x.run.Runs may s es result' s' ∧ result = Except.map g result' := by
  rw [ExceptT.run_map, Program.runs_map]

theorem runs_ofProgram {g : ε → Failure} {p : Program (Except ε α)} {result : Except Failure α} :
    (ofProgram g p).run.Runs may s es result s' ↔
      ∃ result', p.Runs may s es result' s' ∧ result = Except.mapError g result' := by
  rw [ofProgram, ExceptT.run_mk, Program.runs_map]

theorem runs_lift {p : Program α} {result : Except Failure α} :
    (ExceptT.lift p : Operation α).run.Runs may s es result s' ↔
      ∃ a, p.Runs may s es a s' ∧ result = .ok a := by
  rw [ExceptT.run_lift, Program.runs_map]

theorem runs_now {result : Except Failure Int64} :
    now.run.Runs may s es result s' ↔
      ∃ time, es = [⟨s, .now, time⟩] ∧ may .now s time s' ∧ result = .ok time :=
  runs_lift.trans (exists_congr fun _ => (and_congr_left' Program.runs_request).trans and_assoc)

theorem runs_store {c : StoreCall} {result : Except Failure c.Reply} :
    (store c).run.Runs may s es result s' ↔
      ∃ reply, es = [⟨s, .store c, reply⟩] ∧ may (.store c) s reply s' ∧
        result = reply.mapError fun e => .persistence e.message :=
  runs_ofProgram.trans
    (exists_congr fun _ => (and_congr_left' Program.runs_request).trans and_assoc)

end

/-- Every request is `allowed`, what the operation comes to is as `ok` says, and where it breaks
off is as `err` says. -/
def Ensures (may : Habit σ) (allowed : Request → σ → Prop) (x : Operation α)
    (ok : α → σ → Prop) (err : Failure → σ → Prop) (s : σ) : Prop :=
  x.run.Ensures may allowed
    (fun result s' =>
      match result with
      | .ok a => ok a s'
      | .error f => err f s') s

section

variable {may : Habit σ} {allowed : Request → σ → Prop} {err : Failure → σ → Prop} {s : σ}

theorem Ensures.of_runs {x : Operation α} {ok : α → σ → Prop} {s' : σ} {es : List (Exchange σ)}
    {result : Except Failure α} (h : x.Ensures may allowed ok err s)
    (run : x.run.Runs may s es result s') :
    (∀ e ∈ es, allowed e.request e.state) ∧ (∀ a, result = .ok a → ok a s') ∧
      ∀ f, result = .error f → err f s' := by
  obtain ⟨hes, hend⟩ := Program.Ensures.of_runs h run
  cases result with
  | ok a => exact ⟨hes, fun a' ha => Except.ok.inj ha ▸ hend, fun _ hf => by cases hf⟩
  | error f => exact ⟨hes, (fun _ ha => by cases ha), fun f' hf => Except.error.inj hf ▸ hend⟩

theorem Ensures.and {x : Operation α} {ok ok' : α → σ → Prop} {err err' : Failure → σ → Prop}
    (h : x.Ensures may allowed ok err s) (h' : x.Ensures may allowed ok' err' s) :
    x.Ensures may allowed (fun a s => ok a s ∧ ok' a s) (fun f s => err f s ∧ err' f s) s :=
  (Program.Ensures.and h h').mono fun result _ h => by cases result <;> exact h

theorem Ensures.of_habit {may' : Habit σ}
    (h : ∀ r s reply s', may' r s reply s' → may r s reply s') {x : Operation α}
    {ok : α → σ → Prop} (hx : x.Ensures may allowed ok err s) : x.Ensures may' allowed ok err s :=
  Program.Ensures.of_habit h hx

theorem Ensures.mono {x : Operation α} {ok ok' : α → σ → Prop} {err err' : Failure → σ → Prop}
    (hok : ∀ a s, ok a s → ok' a s) (herr : ∀ f s, err f s → err' f s)
    (h : x.Ensures may allowed ok err s) : x.Ensures may allowed ok' err' s := by
  refine Program.Ensures.mono (fun result s' h => ?_) h
  cases result with
  | ok a => exact hok a s' h
  | error f => exact herr f s' h

@[simp]
theorem ensures_pure (a : α) (ok : α → σ → Prop) :
    Ensures may allowed (pure a) ok err s ↔ ok a s :=
  Iff.rfl

@[simp]
theorem ensures_bind (x : Operation α) (f : α → Operation β) (ok : β → σ → Prop) :
    Ensures may allowed (x >>= f) ok err s ↔
      x.Ensures may allowed (fun a s' => (f a).Ensures may allowed ok err s') err s := by
  unfold Ensures
  rw [ExceptT.run_bind, Program.ensures_bind]
  refine iff_of_eq (congrArg (x.run.Ensures may allowed · s) ?_)
  funext result s'
  cases result <;> rfl

@[simp]
theorem ensures_map (g : α → β) (x : Operation α) (ok : β → σ → Prop) :
    Ensures may allowed (g <$> x) ok err s ↔
      x.Ensures may allowed (fun a s' => ok (g a) s') err s := by
  rw [map_eq_pure_bind, ensures_bind]
  simp only [ensures_pure]

@[simp]
theorem ensures_lift (p : Program α) (ok : α → σ → Prop) :
    Ensures may allowed (ExceptT.lift p) ok err s ↔ p.Ensures may allowed ok s :=
  Program.ensures_map _ _ _ _

@[simp]
theorem ensures_ofProgram (g : ε → Failure) (p : Program (Except ε α)) (ok : α → σ → Prop) :
    Ensures may allowed (ofProgram g p) ok err s ↔
      p.Ensures may allowed
        (fun result s' =>
          match result with
          | .ok a => ok a s'
          | .error e => err (g e) s') s := by
  unfold Ensures ofProgram
  rw [ExceptT.run_mk, Program.ensures_map]
  refine iff_of_eq (congrArg (p.Ensures may allowed · s) ?_)
  funext result s'
  cases result <;> rfl

@[simp]
theorem ensures_ofExcept (g : ε → Failure) (r : Except ε α) (ok : α → σ → Prop) :
    Ensures may allowed (ofExcept g r) ok err s ↔
      (∀ a, r = .ok a → ok a s) ∧ ∀ e, r = .error e → err (g e) s := by
  cases r with
  | ok a =>
    refine ⟨fun h => ⟨fun b hb => ?_, fun _ he => by cases he⟩, fun h => h.1 a rfl⟩
    cases hb
    exact h
  | error e =>
    refine ⟨fun h => ⟨(fun _ ha => by cases ha), fun e' he => ?_⟩, fun h => h.2 e rfl⟩
    cases he
    exact h

end

section

variable {asked : Request → Prop}

theorem asks_bind {x : Operation α} {f : α → Operation β} (hx : x.run.Asks asked)
    (hf : ∀ a, (f a).run.Asks asked) : (x >>= f).run.Asks asked := by
  rw [ExceptT.run_bind]
  refine hx.bind fun result => ?_
  cases result with
  | ok a => exact hf a
  | error f => exact Program.asks_pure _

theorem asks_lift {p : Program α} (hp : p.Asks asked) :
    (ExceptT.lift p : Operation α).run.Asks asked := by
  rw [ExceptT.run_lift, map_eq_pure_bind]
  exact hp.bind fun _ => Program.asks_pure _

theorem asks_ofProgram {g : ε → Failure} {p : Program (Except ε α)} (hp : p.Asks asked) :
    (ofProgram g p).run.Asks asked := by
  rw [ofProgram, ExceptT.run_mk, map_eq_pure_bind]
  exact hp.bind fun _ => Program.asks_pure _

theorem asks_ofExcept {g : ε → Failure} {r : Except ε α} : (ofExcept g r).run.Asks asked :=
  Program.asks_pure _

theorem ensures_of_asks {may : Habit σ} {x : Operation α} (hx : x.run.Asks asked) {I : σ → Prop}
    (step : ∀ r s reply s', asked r → may r s reply s' → I s → I s')
    {allowed : Request → σ → Prop} (hallowed : ∀ r s, asked r → I s → allowed r s) {s : σ}
    (hs : I s) : x.Ensures may allowed (fun _ => I) (fun _ => I) s :=
  (hx.ensures step hallowed hs).mono fun result _ h => by
    cases result <;> exact h

end

/-- From any state, only such requests are made, and what the operation comes to is as `ok` says. -/
def Always (may : Habit σ) (asked : Request → Prop) (x : Operation α) (ok : α → Prop) : Prop :=
  ∀ s, x.Ensures may (fun r _ => asked r) (fun a _ => ok a) (fun _ _ => True) s

section

variable {may : Habit σ} {asked : Request → Prop}

theorem Always.bind {x : Operation α} {f : α → Operation β} {ok : α → Prop} {ok' : β → Prop}
    (hx : x.Always may asked ok) (hf : ∀ a, ok a → (f a).Always may asked ok') :
    (x >>= f).Always may asked ok' := fun s =>
  (ensures_bind _ _ _).2 ((hx s).mono (fun a s' ha => hf a ha s') fun _ _ h => h)

theorem Always.map {x : Operation α} (hx : x.Always may asked fun _ => True) (f : α → β) :
    (f <$> x).Always may asked fun _ => True := fun s =>
  (ensures_map _ _ _).2 (hx s)

theorem always_of_asks {x : Operation α} (hx : x.run.Asks asked) :
    x.Always may asked fun _ => True := fun _ =>
  ensures_of_asks hx (fun _ _ _ _ _ _ h => h) (fun _ _ hr _ => hr) trivial

theorem always_pure {a : α} {ok : α → Prop} (h : ok a) :
    (pure a : Operation α).Always may asked ok :=
  fun _ => h

theorem always_throw (f : Failure) {ok : α → Prop} : (throw f : Operation α).Always may asked ok :=
  fun _ => trivial

theorem always_throw_bind (f : Failure) (g : α → Operation β) {ok : β → Prop} :
    (throw f >>= g : Operation β).Always may asked ok :=
  fun _ => trivial

end

end Operation

end Steading
