import Steading.Proofs.Holdings
import Steading.Provision

/-!
# Which objects provisioning touches

Undoing or deleting a queue touches at most the queued objects, and clearing away a claim touches
only that claim. Creating a queue either puts every queued object where there was none, or leaves
everything but the queued objects as it was (`ActionQueue.ensures_createFrom`).
-/

namespace Steading

namespace Holdings

def add (s : Holdings) : Action → Holdings
  | .deployment d => s.putDeployment d.metadata.nameOrEmpty (some d)
  | .claim c => s.putClaim c.metadata.nameOrEmpty (some c)

/-- The objects are put in one after the other, each where there is none. -/
def Adds : List Action → Holdings → Holdings → Prop
  | [], s, s' => s' = s
  | a :: rest, s, s' => s.has a.kind a.name = false ∧ Adds rest (s.add a) s'

/-- An object is deleted; a claim with finalizers only waits to go. -/
def drop (s : Holdings) : Action → Holdings
  | .deployment d => s.putDeployment d.metadata.nameOrEmpty none
  | .claim c =>
    if (s.claims c.metadata.nameOrEmpty).any Claim.hasFinalizers then
      s.setTerminating c.metadata.nameOrEmpty true
    else s.putClaim c.metadata.nameOrEmpty none

/-- The objects are deleted one after the other, but for some if there are faults. -/
def Drops (fault : ClusterError → Prop) : List Action → Holdings → Holdings → Prop
  | [], s, s' => s' = s
  | a :: rest, s, s' => Drops fault rest (s.drop a) s' ∨ (∃ e, fault e) ∧ Drops fault rest s s'

theorem drop_of_not_has {s : Holdings} {a : Action} (h : s.has a.kind a.name = false) :
    s.drop a = s := by
  cases a with
  | deployment d =>
    have hd : s.deployments d.metadata.nameOrEmpty = none := Option.not_isSome_iff_eq_none.1 (by
      rw [show (s.deployments d.metadata.nameOrEmpty).isSome = false from h]
      exact Bool.false_ne_true)
    rw [drop, putDeployment, setAt_self hd]
  | claim c =>
    have hc : s.claims c.metadata.nameOrEmpty = none := Option.not_isSome_iff_eq_none.1 (by
      rw [show (s.claims c.metadata.nameOrEmpty).isSome = false from h]
      exact Bool.false_ne_true)
    rw [drop, hc, if_neg (by simp), putClaim, setAt_self hc]

theorem sameBut_drop {touched : Kind → String → Prop} {a : Action}
    (h : touched a.kind a.name) (s : Holdings) : s.SameBut touched (s.drop a) := by
  cases a with
  | deployment d => exact .putDeployment h _
  | claim c =>
    rw [drop]
    split_ifs
    · exact .setTerminating h _
    · exact .putClaim h _

theorem sameBut_add {touched : Kind → String → Prop} {a : Action}
    (h : touched a.kind a.name) (s : Holdings) : s.SameBut touched (s.add a) := by
  cases a with
  | deployment d => exact .putDeployment h _
  | claim c => exact .putClaim h _

theorem Adds.sameBut {touched : Kind → String → Prop} :
    ∀ {q : List Action} {s s' : Holdings}, (∀ a ∈ q, touched a.kind a.name) →
      Adds q s s' → s.SameBut touched s'
  | [], _, _, _, h => .of_eq h
  | _ :: _, s, _, hq, h => by
    obtain ⟨ha, hrest⟩ := List.forall_mem_cons.1 hq
    exact (sameBut_add ha s).trans (sameBut hrest h.2)

theorem records_drop (s : Holdings) (a : Action) : (s.drop a).records = s.records :=
  (show s.SameBut (fun _ _ => True) (s.drop a) from sameBut_drop trivial s).records

theorem deployments_drop (s : Holdings) (a : Action) (name : String) :
    (s.drop a).deployments name = s.deployments name ∨ (s.drop a).deployments name = none := by
  cases a with
  | deployment d =>
    by_cases h : name = d.metadata.nameOrEmpty
    · subst h
      exact .inr (setAt_same _ _ _)
    · exact .inl (setAt_of_ne h)
  | claim c =>
    rw [drop]
    split_ifs <;> exact .inl rfl

namespace Drops

variable {fault : ClusterError → Prop}

theorem sameBut {touched : Kind → String → Prop} :
    ∀ {q : List Action} {s s' : Holdings}, (∀ a ∈ q, touched a.kind a.name) →
      Drops fault q s s' → s.SameBut touched s'
  | [], _, _, _, h => .of_eq h
  | a :: rest, s, s', hq, h => by
    obtain ⟨ha, hrest⟩ := List.forall_mem_cons.1 hq
    rcases h with h | ⟨-, h⟩
    · exact (sameBut_drop ha s).trans (sameBut hrest h)
    · exact sameBut hrest h

theorem records {q : List Action} {s s' : Holdings} (h : Drops fault q s s') :
    s'.records = s.records :=
  (show s.SameBut (fun _ _ => True) s' from h.sameBut fun _ _ => trivial).records

/-- Without faults every object is dropped. -/
theorem eq_foldl (hfault : ∀ e, ¬ fault e) : ∀ {q : List Action} {s s' : Holdings},
    Drops fault q s s' → s' = q.foldl drop s
  | [], _, _, h => h
  | _ :: _, _, _, h => by
    rcases h with h | ⟨⟨e, he⟩, -⟩
    · rw [List.foldl_cons]
      exact eq_foldl hfault h
    · exact absurd he (hfault e)

theorem deployments : ∀ {q : List Action} {s s' : Holdings}, Drops fault q s s' →
    ∀ name, s'.deployments name = s.deployments name ∨ s'.deployments name = none
  | [], _, _, h, name => .inl (by rw [show _ = _ from h])
  | a :: rest, s, s', h, name => by
    rcases h with h | ⟨-, h⟩
    · rcases deployments h name with hs' | hs'
      · rw [hs']
        exact deployments_drop s a name
      · exact .inr hs'
    · exact deployments h name

end Drops

end Holdings

/-- The request that creates an object. -/
def Action.creation : Action → Request
  | .deployment d => .cluster (.createDeployment d)
  | .claim c => .cluster (.createClaim c)

/-- The request that deletes an object. -/
def Action.deletion : Action → Request
  | .deployment d => .cluster (.deleteDeployment d.metadata.nameOrEmpty)
  | .claim c => .cluster (.deleteClaim c.metadata.nameOrEmpty)

variable {fault : ClusterError → Prop} {allowed : Request → Holdings → Prop}
variable {touched : Kind → String → Prop}

theorem Action.ensures_create {a : Action} {s : Holdings}
    {post : Except ClusterError Unit → Holdings → Prop} (ha : touched a.kind a.name)
    (hallowed : ∀ r : Request, r.Within touched → allowed r s)
    (hok : s.has a.kind a.name = false → post (.ok ()) (s.add a))
    (herr : ∀ e, post (.error e) s) : a.create.Ensures (Holdings.habit fault) allowed post s := by
  cases a with
  | deployment d =>
    refine Program.ensures_call.2 ⟨hallowed _ ha, ?_, fun e _ => herr e⟩
    rintro _ s' ⟨h, rfl⟩
    exact hok (congrArg Option.isSome h)
  | claim c =>
    refine Program.ensures_call.2 ⟨hallowed _ ha, ?_, fun e _ => herr e⟩
    rintro _ s' ⟨h, rfl⟩
    exact hok (congrArg Option.isSome h)

theorem Action.within_deletion {a : Action} (h : touched a.kind a.name) :
    a.deletion.Within touched := by
  cases a <;> exact h

theorem Action.asks_create {asked : Request → Prop} {a : Action} (h : asked a.creation) :
    a.create.Asks asked := by
  cases a <;> exact (Program.asks_request _).2 h

theorem Action.asks_undo {asked : Request → Prop} {a : Action} (h : asked a.deletion) :
    a.undo.Asks asked := by
  cases a <;>
  · refine Program.Asks.bind ((Program.asks_request _).2 h) fun result => ?_
    cases result <;> exact Program.asks_pure _

theorem Action.ensures_undo {a : Action} {s : Holdings}
    {post : Except ClusterError Unit → Holdings → Prop} (hallowed : allowed a.deletion s)
    (hok : post (.ok ()) (s.drop a))
    (hgone : ∀ e, fault e ∧ e.isNotFound = true → post (.ok ()) s)
    (herr : ∀ e, fault e → post (.error e) s) :
    a.undo.Ensures (Holdings.habit fault) allowed post s := by
  have hfails : ∀ e : ClusterError, fault e ∨ (s.has a.kind a.name = false ∧
      e = .notFound a.kind a.name) →
        post (if e.isNotFound then .ok () else .error e) s := by
    rintro e (he | ⟨h, rfl⟩)
    · split_ifs with hn
      · exact hgone e ⟨he, hn⟩
      · exact herr e he
    · rw [Holdings.drop_of_not_has h] at hok
      exact hok
  cases a with
  | deployment d =>
    refine (Program.ensures_bind _ _ _ _).2 (Program.ensures_call.2 ⟨hallowed, ?_, hfails⟩)
    rintro _ s' ⟨-, rfl⟩
    exact hok
  | claim c =>
    refine (Program.ensures_bind _ _ _ _).2 (Program.ensures_call.2 ⟨hallowed, ?_, hfails⟩)
    rintro _ s' ⟨old, hold, rfl⟩
    rw [Holdings.drop, hold] at hok
    exact hok

namespace ActionQueue

theorem fst_apply (q : ActionQueue) : Prod.fst <$> q.apply = createFrom q [] q := by
  simp [apply]

theorem fst_rollback (q : ActionQueue) : Prod.fst <$> q.rollback = deleteFrom [] [] q := by
  simp [rollback]

section

variable {asked : Request → Prop}

theorem asks_undoAll : ∀ {q : List Action}, (∀ a ∈ q, asked a.deletion) → (undoAll q).Asks asked
  | [], _ => Program.asks_pure _
  | a :: _, h =>
    (a.asks_undo (h a List.mem_cons_self)).bind fun _ =>
      asks_undoAll fun b hb => h b (List.mem_cons_of_mem _ hb)

theorem asks_createFrom {q : ActionQueue} (hq : ∀ a ∈ q, asked a.deletion) :
    ∀ {rest : List Action} {created : List String}, (∀ a ∈ rest, asked a.creation) →
      (createFrom q created rest).Asks asked
  | [], _, _ => Program.asks_pure _
  | a :: rest, _, h => by
    obtain ⟨ha, hrest⟩ := List.forall_mem_cons.1 h
    refine (a.asks_create ha).bind fun result => ?_
    cases result with
    | ok => exact asks_createFrom hq hrest
    | error e =>
      exact (asks_undoAll fun b hb => hq b (List.mem_reverse.1 hb)).bind fun _ =>
        Program.asks_pure _

theorem asks_deleteFrom : ∀ {q : List Action} {deleted failed : List String},
    (∀ a ∈ q, asked a.deletion) → (deleteFrom deleted failed q).Asks asked
  | [], _, _, _ => Program.asks_pure _
  | a :: rest, _, _, h => by
    obtain ⟨ha, hrest⟩ := List.forall_mem_cons.1 h
    refine (a.asks_undo ha).bind fun result => ?_
    cases result with
    | ok => exact asks_deleteFrom hrest
    | error e => exact asks_deleteFrom hrest

theorem asks_rollback {q : ActionQueue} (h : ∀ a ∈ q, asked a.deletion) : q.rollback.Asks asked :=
  (asks_deleteFrom h).bind fun _ => Program.asks_pure _

end

/-- If deletion succeeds, every queued object is dropped, or its deletion failed because it was not
found. -/
theorem ensures_deleteFrom :
    ∀ {q : List Action} {deleted failed : List String} {s : Holdings},
      (∀ a ∈ q, ∀ s', s'.records = s.records → allowed a.deletion s') →
        (deleteFrom deleted failed q).Ensures (Holdings.habit fault) allowed
          (fun result s' =>
            match result with
            | .ok names => failed = [] ∧ names = deleted ++ q.map Action.name ∧
              s.Drops (fun e => fault e ∧ e.isNotFound = true) q s'
            | .error _ => s.Drops fault q s') s
  | [], deleted, failed, s, _ => by
    rw [deleteFrom]
    cases failed <;> simp [Holdings.Drops]
  | a :: rest, deleted, failed, s, hallowed => by
    obtain ⟨ha, hrest⟩ := List.forall_mem_cons.1 hallowed
    rw [deleteFrom, Program.ensures_bind]
    refine Action.ensures_undo (ha s rfl) ?_ (fun e he => ?_) fun e he => ?_
    · refine (ensures_deleteFrom fun b hb s' hs' =>
        hrest b hb s' (hs'.trans (s.records_drop a))).mono fun result s' h => ?_
      cases result with
      | ok names =>
        obtain ⟨hfailed, hnames, hdrops⟩ := h
        exact ⟨hfailed, by simpa using hnames, .inl hdrops⟩
      | error e => exact .inl h
    · refine (ensures_deleteFrom hrest).mono fun result s' h => ?_
      cases result with
      | ok names =>
        obtain ⟨hfailed, hnames, hdrops⟩ := h
        exact ⟨hfailed, by simpa using hnames, .inr ⟨⟨e, he⟩, hdrops⟩⟩
      | error _ => exact .inr ⟨⟨e, he.1⟩, h⟩
    · refine (ensures_deleteFrom hrest).mono fun result s' h => ?_
      cases result with
      | ok names => exact absurd h.1 (by simp)
      | error _ => exact .inr ⟨⟨e, he⟩, h⟩

/-- Unless every object can be created where there is none, nothing but the queued objects may
differ. -/
theorem ensures_createFrom {q : ActionQueue} (hq : ∀ a ∈ q, touched a.kind a.name)
    {s₀ : Holdings} (hallowed : ∀ (r : Request) s, r.Within touched → s₀.SameBut touched s →
      allowed r s) :
    ∀ {rest : List Action} {created : List String} {s : Holdings},
      (∀ a ∈ rest, touched a.kind a.name) → s₀.SameBut touched s →
        (createFrom q created rest).Ensures (Holdings.habit fault) allowed
          (fun result s' =>
            match result with
            | .ok _ => Holdings.Adds rest s s'
            | .error _ => s₀.SameBut touched s') s
  | [], _, _, _, _ => rfl
  | a :: rest, created, s, hrest, hs => by
    obtain ⟨ha, hrest⟩ := List.forall_mem_cons.1 hrest
    rw [createFrom, Program.ensures_bind]
    refine Action.ensures_create ha (fun r hr => hallowed r s hr hs) (fun hfree => ?_) fun e => ?_
    · refine (ensures_createFrom hq hallowed hrest
        (hs.trans (Holdings.sameBut_add ha s))).mono fun result s' h => ?_
      cases result with
      | ok names => exact ⟨hfree, h⟩
      | error e => exact h
    · refine (Program.ensures_bind _ _ _ _).2 ?_
      exact (asks_undoAll fun b hb => b.within_deletion (hq b (List.mem_reverse.1 hb))).ensures
        (fun r s s' reply hr h hs => hs.trans (Holdings.sameBut_habit hr h)) hallowed hs

end ActionQueue

section

variable {asked : Request → Prop} {name : String}

theorem asks_claimExists (hget : asked (.cluster (.getClaim name))) :
    (claimExists name).Asks asked := by
  refine Program.Asks.bind ((Program.asks_request _).2 hget) fun result => ?_
  cases result <;> exact Program.asks_pure _

theorem asks_removeStuckClaim (hclear : asked (.cluster (.clearFinalizers name)))
    (hdelete : asked (.cluster (.deleteClaim name))) : (removeStuckClaim name).Asks asked := by
  refine Program.Asks.bind ((Program.asks_request _).2 hclear) fun cleared => ?_
  cases cleared with
  | error e => exact Program.asks_pure _
  | ok =>
    refine Program.Asks.bind ((Program.asks_request _).2 hdelete) fun deleted => ?_
    cases deleted <;> exact Program.asks_pure _

theorem SettlePolicy.asks_waitFor (p : SettlePolicy) (hget : asked (.cluster (.getClaim name)))
    (hpause : ∀ d, asked (.pause d)) (left : Nat) (backoff : Duration) (empty : Nat) :
    (p.waitFor name left backoff empty).Asks asked := by
  rw [waitFor.eq_def]
  refine (asks_claimExists hget).bind fun there => ?_
  split_ifs with hthere hleft hnonempty
  · exact Program.asks_pure _
  · exact ⟨hpause _, fun _ => p.asks_waitFor hget hpause _ _ _⟩
  · split
    · exact Program.asks_pure _
    · exact ⟨hpause _, fun _ => p.asks_waitFor hget hpause _ _ _⟩
  · exact Program.asks_pure _
  termination_by (left, empty)

end

end Steading
