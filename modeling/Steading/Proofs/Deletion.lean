import Steading.Cluster.Http
import Steading.Proofs.Creation
import Steading.Proofs.Stages

/-!
# What a deletion leaves on record

An object counts as gone when the cluster has deleted it or knows of none. Whatever the cluster
replies, a rollback asks for every queued object, and comes to the names of those that are gone, or
to what stands in the way of the others if there are any
(`ActionQueue.tried_of_runs_deleteFrom`).

So a deletion asks for the deployment and then for the claim, and for nothing else of the cluster;
the record goes after both of them or stays as it is (`Controller.deletes_in_order`).
-/

namespace Steading

variable {σ : Type} {may : Habit σ} {s s' : σ} {es : List (Exchange σ)}

/-- Why an object that was to be deleted is still there. -/
def obstacle? : Except ClusterError Unit → Option ClusterError
  | .ok () => none
  | .error e => if e.isNotFound then none else some e

/-- Every exchange of a run is one that there may be. -/
theorem Program.Runs.may_of_mem {α : Type} {p : Program α} {a : α} (run : p.Runs may s es a s')
    {x : Exchange σ} (hx : x ∈ es) : ∃ s₁, may x.request x.state x.reply s₁ := by
  induction run with
  | done => cases hx
  | ask h run ih =>
    rcases List.mem_cons.1 hx with rfl | hx
    · exact ⟨_, h⟩
    · exact ih hx

/-- What is listed stands in the list's text. -/
theorem infix_intercalate {sep text : String} : ∀ {texts : List String}, text ∈ texts →
    text.toList <:+: (sep.intercalate texts).toList
  | [only], h => by
    obtain rfl := List.mem_singleton.1 h
    simp only [String.intercalate_singleton, List.infix_rfl]
  | first :: second :: texts, h => by
    rw [String.intercalate_cons_cons, String.toList_append, String.toList_append]
    rcases List.mem_cons.1 h with rfl | h
    · exact ((List.prefix_append _ _).trans (List.prefix_append _ _)).isInfix
    · exact (infix_intercalate h).trans (List.suffix_append _ _).isInfix

namespace Action

/-- The exchange in which an object is deleted. -/
def deleted (s : σ) (reply : Except ClusterError Unit) : Action → Exchange σ
  | deployment d => ⟨s, .cluster (.deleteDeployment d.metadata.nameOrEmpty), reply⟩
  | claim c => ⟨s, .cluster (.deleteClaim c.metadata.nameOrEmpty), reply⟩

theorem result_of_runs_undo {a : Action} {result : Except ClusterError Unit}
    (run : a.undo.Runs may s es result s') :
    ∃ reply, es = [a.deleted s reply] ∧
      (obstacle? reply = none ∧ result = .ok () ∨
        ∃ e, obstacle? reply = some e ∧ result = .error e) := by
  obtain ⟨es₁, reply, s₁, es₂, hdelete, hrest, rfl⟩ := Program.runs_bind.1 run
  have hasked : es₁ = [a.deleted s reply] := by
    cases a <;> exact (Program.runs_request.1 hdelete).1
  cases reply with
  | ok =>
    obtain ⟨rfl, rfl, -⟩ := Program.runs_pure.1 hrest
    exact ⟨.ok (), by rw [hasked, List.append_nil], .inl ⟨rfl, rfl⟩⟩
  | error e =>
    obtain ⟨rfl, rfl, -⟩ := Program.runs_pure.1 hrest
    refine ⟨.error e, by rw [hasked, List.append_nil], ?_⟩
    rw [obstacle?]
    split_ifs
    · exact .inl ⟨rfl, rfl⟩
    · exact .inr ⟨e, rfl, rfl⟩

end Action

namespace ActionQueue

/-- The exchanges in which the objects of a queue are deleted one after the other, with these
replies. -/
inductive Tried : List Action → List (Except ClusterError Unit) → List (Exchange σ) → Prop
  | nil : Tried [] [] []
  | cons {a : Action} {q : List Action} {reply : Except ClusterError Unit}
      {replies : List (Except ClusterError Unit)} {s : σ} {es : List (Exchange σ)}
      (rest : Tried q replies es) : Tried (a :: q) (reply :: replies) (a.deleted s reply :: es)

/-- The names of the objects that are gone after these replies. -/
def gone (q : List Action) (replies : List (Except ClusterError Unit)) : List String :=
  ((q.zip replies).filter fun p => (obstacle? p.2).isNone).map fun p => p.1.name

/-- What stands in the way of the others. -/
def obstacles (replies : List (Except ClusterError Unit)) : List String :=
  replies.filterMap fun reply => (obstacle? reply).map ClusterError.message

/-- What the deletion of a queue comes to. -/
def verdict (names texts : List String) : Except ProvisionError (List String) :=
  if texts.isEmpty then .ok names else .error (.rollback names texts)

theorem tried_of_runs_deleteFrom : ∀ {q : List Action} {names texts : List String} {s : σ}
    {es : List (Exchange σ)} {result : Except ProvisionError (List String)},
    (deleteFrom names texts q).Runs may s es result s' →
      ∃ replies, Tried q replies es ∧
        result = verdict (names ++ gone q replies) (texts ++ obstacles replies)
  | [], names, texts, _, _, _, run => by
    obtain ⟨rfl, rfl, -⟩ := Program.runs_pure.1 run
    exact ⟨[], .nil, by simp [verdict, gone, obstacles]⟩
  | a :: rest, names, texts, _, _, _, run => by
    obtain ⟨es₁, undone, s₁, es₂, hundo, hrest, rfl⟩ := Program.runs_bind.1 run
    obtain ⟨reply, rfl, ⟨hgone, rfl⟩ | ⟨e, hleft, rfl⟩⟩ := Action.result_of_runs_undo hundo
    · obtain ⟨replies, htried, rfl⟩ := tried_of_runs_deleteFrom hrest
      exact ⟨reply :: replies, .cons htried, by simp [gone, obstacles, hgone]⟩
    · obtain ⟨replies, htried, rfl⟩ := tried_of_runs_deleteFrom hrest
      exact ⟨reply :: replies, .cons htried, by simp [gone, obstacles, hleft]⟩

theorem Tried.gone_eq_map {q : List Action} {replies : List (Except ClusterError Unit)}
    (h : Tried q replies es) (hgone : ∀ reply ∈ replies, obstacle? reply = none) :
    gone q replies = q.map Action.name := by
  induction h with
  | nil => rfl
  | cons _ ih =>
    obtain ⟨hreply, hrest⟩ := List.forall_mem_cons.1 hgone
    rw [List.map_cons, ← ih hrest]
    simp [gone, hreply]

/-- Either all is gone, or something is left. -/
theorem Tried.verdict_cases {q : List Action} {replies : List (Except ClusterError Unit)}
    (h : Tried q replies es) :
    (∀ reply ∈ replies, obstacle? reply = none) ∧
        verdict (gone q replies) (obstacles replies) = .ok (q.map Action.name) ∨
      ¬ (∀ reply ∈ replies, obstacle? reply = none) ∧
        verdict (gone q replies) (obstacles replies) =
          .error (.rollback (gone q replies) (obstacles replies)) := by
  have hnone : obstacles replies = [] ↔ ∀ reply ∈ replies, obstacle? reply = none := by
    simp [obstacles, List.filterMap_eq_nil_iff]
  by_cases hgone : ∀ reply ∈ replies, obstacle? reply = none
  · refine .inl ⟨hgone, ?_⟩
    rw [hnone.2 hgone, h.gone_eq_map hgone]
    rfl
  · refine .inr ⟨hgone, if_neg ?_⟩
    rw [List.isEmpty_iff, hnone]
    exact hgone

theorem mem_obstacles {reply : Except ClusterError Unit} {e : ClusterError}
    (h : obstacle? reply = some e) {replies : List (Except ClusterError Unit)}
    (hreply : reply ∈ replies) : e.message ∈ obstacles replies :=
  List.mem_filterMap.2 ⟨reply, hreply, by rw [h, Option.map_some]⟩

/-- A rollback that is incomplete says everything that stands in the way. -/
theorem infix_message_rollback (names : List String) {texts : List String} {text : String}
    (h : text ∈ texts) :
    text.toList <:+: (ProvisionError.rollback names texts).message.toList := by
  have hmessage : (ProvisionError.rollback names texts).message =
      "rollback incomplete: " ++ "; ".intercalate texts := rfl
  rw [hmessage, String.toList_append]
  exact (infix_intercalate h).trans (List.suffix_append _ _).isInfix

end ActionQueue

namespace Records

/-- The cluster and the address may reply anything; the store does not fail in what records can
answer. -/
def reliable : Habit Records
  | .store c, f, reply, f' => reply.toOption = (f.answer c).1 ∧ f' = (f.answer c).2
  | .cluster _, f, _, f' | .address, f, _, f' | .now, f, _, f' | .freshId, f, _, f'
  | .pause _, f, _, f' => f' = f

theorem habit_of_reliable (r : Request) (f : Records) (reply : r.Reply) (f' : Records)
    (h : reliable r f reply f') : habit r f reply f' := by
  cases r with
  | store c => exact .inl h
  | _ => exact h

theorem runs_store_reliable {f f' : Records} {es : List (Exchange Records)} {c : StoreCall}
    {a : c.Reply} (ha : (f.answer c).1 = some a) {result : Except Failure c.Reply}
    (run : (Operation.store c).run.Runs reliable f es result f') :
    es = [⟨f, .store c, .ok a⟩] ∧ result = .ok a ∧ f' = (f.answer c).2 := by
  obtain ⟨hes, ⟨-, hf'⟩, hresult⟩ := Operation.runs_store_answered (fun _ _ h => h.1) ha run
  exact ⟨hes, hresult, hf'⟩

/-- Replies `x` and `y` to the two deletions, and nothing to the other calls. -/
def replying (x y : Except ClusterError Unit) : Outside Records where
  answer
    | .store c, f =>
      (match (f.answer c).1 with
        | some a => .ok a
        | none => .error (.noServer default), (f.answer c).2)
    | .cluster (.deleteDeployment _), f => (x, f)
    | .cluster (.deleteClaim _), f => (y, f)
    | .cluster _, f | .address, f => (.error default, f)
    | .now, f => (0, f)
    | .freshId, f => ("", f)
    | .pause _, f => ((), f)

theorem reliable_replying {x y : Except ClusterError Unit} (r : Request) (f : Records)
    (reply : r.Reply) (f' : Records) (h : (replying x y).habit r f reply f') :
    reliable r f reply f' := by
  cases r with
  | store c =>
    obtain ⟨rfl, rfl⟩ := Prod.mk.inj h
    refine ⟨?_, rfl⟩
    cases (f.answer c).1 <;> rfl
  | cluster c => cases c <;> exact (Prod.mk.inj h).2.symm
  | _ => exact (Prod.mk.inj h).2.symm

/-- The names that a tenant's objects have on record, or would have. -/
def objectName (f : Records) (t : TenantId) (kind : Kind) : String :=
  match f t with
  | some r => r.server.objectName kind
  | none => t.objectName kind

end Records

namespace HttpCluster

variable {h : HttpCluster} {c : ClusterCall}

theorem isNotFound_interpret_iff {name : String} {reply : HttpReply} :
    (∃ e, h.interpret c name reply = .error e ∧ e.isNotFound = true) ↔
      ∃ status body, reply = .received status body ∧ isHttpFailure status = true ∧
        (HttpFailure.ofReply status body).code = 404 := by
  constructor
  · rintro ⟨e, he, hnotFound⟩
    cases reply with
    | nothing =>
      cases he
      cases hnotFound
    | received status body =>
      simp only [interpret] at he
      split_ifs at he with hfailure hcode
      · exact ⟨status, body, rfl, hfailure, hcode⟩
      · cases he
        cases hnotFound
      · split at he <;> cases he
        cases hnotFound
  · rintro ⟨status, body, rfl, hfailure, hcode⟩
    exact ⟨.notFound c.kind name, by simp only [interpret, hfailure, hcode, if_true], rfl⟩

/-- A call is either not sent, and that is not for want of an object, or interpreted as a reply
about an object of some name. -/
theorem exchange_cases (h : HttpCluster) (c : ClusterCall) :
    (∃ e, h.exchange c = .error e ∧ e.isNotFound = false) ∨
      ∃ request name, h.exchange c = .ok (request, h.interpret c name) := by
  rw [exchange]
  split
  · exact .inl ⟨_, rfl, rfl⟩
  · dsimp only
    split
    · exact .inr ⟨_, _, rfl⟩
    · exact .inl ⟨_, rfl, rfl⟩

/-- Nothing is found where the cluster says so: in a reply that tells of a failure with the code
404. -/
theorem isNotFound_answer_iff (h : HttpCluster) (c : ClusterCall) (script : HttpScript) :
    (∃ e, (h.answer c script).1 = .error e ∧ e.isNotFound = true) ↔
      (h.exchange c).isOk = true ∧ ∃ status body rest,
        script.replies = .received status body :: rest ∧ isHttpFailure status = true ∧
          (HttpFailure.ofReply status body).code = 404 := by
  rcases h.exchange_cases c with ⟨e, hexchange, he⟩ | ⟨request, name, hexchange⟩
  · have hanswer : h.answer c script = (.error e, script) := by rw [answer, hexchange]
    rw [hanswer, hexchange]
    simp [Except.isOk, Except.toBool, he]
  · have hanswer : (h.answer c script).1 = h.interpret c name (script.send request).1 := by
      rw [answer, hexchange]
    have hsend : ∀ status body, (script.send request).1 = .received status body ↔
        ∃ rest, script.replies = .received status body :: rest := by
      intro status body
      rw [HttpScript.send]
      cases script.replies with
      | nil => simp
      | cons reply rest => simp
    rw [hanswer, hexchange, isNotFound_interpret_iff]
    simp only [hsend, Except.isOk, Except.toBool, true_and, exists_and_right]

end HttpCluster

namespace Controller

/-- What the deletion of a tenant's server has asked and come to, given what the cluster replied
about the deployment and about the claim. -/
inductive Deletes (t : TenantId) (x y : Except ClusterError Unit) (s : Records) :
    List (Exchange Records) → Except Failure Answer → Records → Prop
  | removed (hx : obstacle? x = none) (hy : obstacle? y = none) :
      Deletes t x y s [⟨s, .store (.find t), .ok (s t)⟩,
          ⟨s, .cluster (.deleteDeployment (s.objectName t .deployment)), x⟩,
          ⟨s, .cluster (.deleteClaim (s.objectName t .claim)), y⟩,
          ⟨s, .store (.delete t), .ok (s t).isSome⟩]
        (.ok (.deleted [s.objectName t .deployment, s.objectName t .claim])) (setAt s t none)
  | kept {text : String} (h : ¬ (obstacle? x = none ∧ obstacle? y = none))
      (told : ∀ e, obstacle? x = some e ∨ obstacle? y = some e →
        e.message.toList <:+: text.toList) :
      Deletes t x y s [⟨s, .store (.find t), .ok (s t)⟩,
          ⟨s, .cluster (.deleteDeployment (s.objectName t .deployment)), x⟩,
          ⟨s, .cluster (.deleteClaim (s.objectName t .claim)), y⟩]
        (.error (.cluster text)) s

variable {c : Controller} {t : TenantId} {s s' : Records} {es : List (Exchange Records)}

/-- Both objects are asked for, and the records stay as they are. -/
theorem runs_rollback_objects {ns d p : String} {result : Except Failure (List String)}
    (run : (Operation.provision (Prod.fst <$> (deletionQueue ns d p).rollback)).run.Runs
      Records.reliable s es result s') :
    s' = s ∧ ∃ x y, es = [⟨s, .cluster (.deleteDeployment d), x⟩,
        ⟨s, .cluster (.deleteClaim p), y⟩] ∧
      (obstacle? x = none ∧ obstacle? y = none ∧ result = .ok [d, p] ∨
        ∃ text, ¬ (obstacle? x = none ∧ obstacle? y = none) ∧ result = .error (.cluster text) ∧
          ∀ e, obstacle? x = some e ∨ obstacle? y = some e →
            e.message.toList <:+: text.toList) := by
  have hasks : (deletionQueue ns d p).rollback.Asks (·.isWrite = false) :=
    ActionQueue.asks_rollback fun a _ => by cases a <;> rfl
  rw [Operation.provision, Operation.runs_ofProgram] at run
  obtain ⟨settled, run, rfl⟩ := run
  obtain ⟨_, hrollback, -⟩ := Program.runs_map.1 run
  obtain ⟨hstates, rfl⟩ :=
    Records.eq_of_runs hasks (fun _ h => h) (hrollback.of_habit Records.habit_of_reliable)
  rw [ActionQueue.fst_rollback] at run
  obtain ⟨replies, htried, rfl⟩ := ActionQueue.tried_of_runs_deleteFrom run
  obtain ⟨x, y, rfl, hes⟩ : ∃ x y, replies = [x, y] ∧
      es = [⟨s', .cluster (.deleteDeployment d), x⟩, ⟨s', .cluster (.deleteClaim p), y⟩] := by
    rw [deletionQueue] at htried
    obtain - | ⟨htried⟩ := htried
    obtain - | ⟨htried⟩ := htried
    obtain - | - := htried
    obtain ⟨rfl, hstates⟩ := List.forall_mem_cons.1 hstates
    obtain ⟨rfl, -⟩ := List.forall_mem_cons.1 hstates
    exact ⟨_, _, rfl, rfl⟩
  have hpair : (∀ reply ∈ [x, y], obstacle? reply = none) ↔
      obstacle? x = none ∧ obstacle? y = none := by simp
  rw [List.nil_append, List.nil_append]
  refine ⟨rfl, x, y, hes, ?_⟩
  rcases htried.verdict_cases with ⟨hgone, hverdict⟩ | ⟨hleft, hverdict⟩ <;> rw [hverdict]
  · obtain ⟨hx, hy⟩ := hpair.1 hgone
    exact .inl ⟨hx, hy, rfl⟩
  · refine .inr ⟨_, mt hpair.2 hleft, rfl, ?_⟩
    rintro e (he | he)
    · exact ActionQueue.infix_message_rollback _ (ActionQueue.mem_obstacles he (by simp))
    · exact ActionQueue.infix_message_rollback _ (ActionQueue.mem_obstacles he (by simp))

/-- What follows once the record has been looked up. -/
theorem deletes_of_rest (ns : String) {q : ActionQueue}
    (hq : q = deletionQueue ns (s.objectName t .deployment) (s.objectName t .claim))
    {result : Except Failure (List String)}
    (run : (do
      let deleted ← .provision (Prod.fst <$> q.rollback)
      let _ ← .store (.delete t)
      return deleted : Operation (List String)).run.Runs Records.reliable s es result s') :
    ∃ x y, Deletes t x y s (⟨s, .store (.find t), .ok (s t)⟩ :: es) (result.map .deleted) s' := by
  subst hq
  rcases Operation.runs_bind.1 run with
    ⟨es₁, names, s₁, es₂, hrollback, hrest, rfl⟩ | ⟨f, hrollback, rfl⟩
  · obtain ⟨rfl, x, y, rfl, ⟨hx, hy, hnames⟩ | ⟨text, -, hf, -⟩⟩ := runs_rollback_objects hrollback
    · cases hnames
      rcases Operation.runs_bind.1 hrest with
        ⟨es₁, existed, s₂, es₃, hremove, hend, rfl⟩ | ⟨f, hremove, rfl⟩
      · obtain ⟨rfl, -, rfl⟩ := Records.runs_store_reliable rfl hremove
        obtain ⟨rfl, rfl, rfl⟩ := Program.runs_pure.1 hend
        exact ⟨x, y, .removed hx hy⟩
      · obtain ⟨-, hf, -⟩ := Records.runs_store_reliable rfl hremove
        cases hf
    · cases hf
  · obtain ⟨rfl, x, y, rfl, ⟨-, -, hf⟩ | ⟨text, h, hf, told⟩⟩ := runs_rollback_objects hrollback
    · cases hf
    · cases hf
      exact ⟨x, y, .kept h told⟩

theorem deletes_of_runs {result : Except Failure Answer} {t : Tenant}
    (run : (Command.delete.program c t).Runs Records.reliable s es result s') :
    ∃ x y, Deletes t.id x y s es result s' := by
  obtain ⟨names, hdelete, rfl⟩ := Operation.runs_map.1 run
  rw [delete] at hdelete
  rcases Operation.runs_bind.1 hdelete with
    ⟨es₁, found, s₁, es₂, hfind, hrest, rfl⟩ | ⟨f, hfind, rfl⟩
  · obtain ⟨rfl, hfound, hs₁⟩ := Records.runs_store_reliable rfl hfind
    cases hfound
    obtain rfl : s₁ = s := hs₁
    refine deletes_of_rest c.manifests.ns ?_ hrest
    simp only [Records.objectName]
    cases s₁ t.id <;> rfl
  · obtain ⟨-, hfound, -⟩ := Records.runs_store_reliable rfl hfind
    cases hfound

theorem Deletes.mem {x y : Except ClusterError Unit} {result : Except Failure Answer}
    (h : Deletes t x y s es result s') :
    ⟨s, .cluster (.deleteDeployment (s.objectName t .deployment)), x⟩ ∈ es ∧
      ⟨s, .cluster (.deleteClaim (s.objectName t .claim)), y⟩ ∈ es := by
  cases h <;> simp

/-- Whatever the cluster replies, there is a deletion in which it does. -/
theorem exists_deletes (c : Controller) (t : Tenant) (x y : Except ClusterError Unit)
    (s : Records) : ∃ es result s',
      (Command.delete.program c t).Runs Records.reliable s es result s' ∧
        Deletes t.id x y s es result s' := by
  have run₀ := (Command.delete.program c t).runs_habit (Records.replying x y) s
  have run := run₀.of_habit Records.reliable_replying
  obtain ⟨x', y', h⟩ := deletes_of_runs run
  obtain ⟨_, hx⟩ := run₀.may_of_mem h.mem.1
  obtain ⟨_, hy⟩ := run₀.may_of_mem h.mem.2
  obtain rfl : x = x' := congrArg Prod.fst hx
  obtain rfl : y = y' := congrArg Prod.fst hy
  exact ⟨_, _, _, run, h⟩

/-- Whatever the cluster replies, both objects are asked for in their order, and the record goes
if both are gone and stays if not, when there is a word on every one that is left. Over HTTP an
object that the cluster does not know of is one that it replies 404 about. -/
theorem deletes_in_order (c : Controller) (t : Tenant) :
    (∀ {s s' : Records} {es : List (Exchange Records)} {result : Except Failure Answer},
        (Command.delete.program c t).Runs Records.reliable s es result s' →
          ∃ x y, Deletes t.id x y s es result s') ∧
      (∀ x y s, ∃ es result s',
        (Command.delete.program c t).Runs Records.reliable s es result s' ∧
          Deletes t.id x y s es result s') ∧
      ∀ (h : HttpCluster) (call : ClusterCall) (script : HttpScript),
        (∃ e, (h.answer call script).1 = .error e ∧ e.isNotFound = true) ↔
          (h.exchange call).isOk = true ∧ ∃ status body rest,
            script.replies = .received status body :: rest ∧ isHttpFailure status = true ∧
              (HttpFailure.ofReply status body).code = 404 :=
  ⟨deletes_of_runs, exists_deletes c t, HttpCluster.isNotFound_answer_iff⟩

/-- The deployment is not deleted in time and there is no claim: the record stays. -/
theorem deletes_in_order_of_timeout :
    let t : Tenant := ⟨default, "premium"⟩
    let s : Records :=
      setAt Records.empty t.id (some (.first t.id ⟨2, 4, 4, 1, false⟩ default "" 0))
    let e : ClusterError := .timeout .deployment t.id.deploymentName (.ofSecs 30)
    ∃ es text, (Command.delete.program sample t).Runs Records.reliable s es
        (.error (.cluster text)) s ∧
      es.length = 3 ∧ e.message.toList <:+: text.toList := by
  intro t s e
  obtain ⟨-, hexists, -⟩ := deletes_in_order sample t
  obtain ⟨es, result, s', run, h⟩ :=
    hexists (.error e) (.error (.notFound .claim t.id.claimName)) s
  cases h with
  | removed hx => cases hx
  | kept _ told => exact ⟨_, _, run, rfl, told e (.inl rfl)⟩

end Controller

end Steading
