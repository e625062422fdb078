import Steading.Proofs.Calls
import Steading.Proofs.Outcome

/-!
# The stages of a command

What the parts that commands are made of ask, exchange by exchange, and what each of them comes to
if it is answered so. At first nothing is known of those who answer; against holdings a stage that
only asks the store comes to what is on record, and a deployment is launched into a world or the
cluster is to blame, if there was one to launch (`Holdings.runs_launchWorld`).
-/

namespace Steading

variable {σ α ε : Type} {may : Habit σ} {s s' : σ} {es : List (Exchange σ)}

namespace Operation

theorem runs_ofExcept {g : ε → Failure} {r : Except ε α} {result : Except Failure α} :
    (ofExcept g r).run.Runs may s es result s' ↔ es = [] ∧ result = r.mapError g ∧ s' = s :=
  Program.runs_pure

theorem runs_check {r : Except ValidationError α} {result : Except Failure α} :
    (check r).run.Runs may s es result s' ↔
      es = [] ∧ result = r.mapError .ofValidation ∧ s' = s :=
  runs_ofExcept

theorem runs_lift_request {r : Request} {result : Except Failure r.Reply} :
    (ExceptT.lift (.request r) : Operation r.Reply).run.Runs may s es result s' ↔
      ∃ reply, es = [⟨s, r, reply⟩] ∧ may r s reply s' ∧ result = .ok reply :=
  runs_lift.trans (exists_congr fun _ => (and_congr_left' Program.runs_request).trans and_assoc)

theorem runs_call {c : ClusterCall} {result : Except Failure c.Reply} :
    (call c).run.Runs may s es result s' ↔
      ∃ reply, es = [⟨s, .cluster c, reply⟩] ∧ may (.cluster c) s reply s' ∧
        result = reply.mapError fun e => .cluster e.message :=
  runs_ofProgram.trans
    (exists_congr fun _ => (and_congr_left' Program.runs_request).trans and_assoc)

/-- A store that answers as records do comes to what they answer. -/
theorem runs_store_answered {f : Records} {c : StoreCall} {a : c.Reply}
    (hmay : ∀ reply s₁, may (.store c) s reply s₁ → reply.toOption = (f.answer c).1)
    (ha : (f.answer c).1 = some a) {result : Except Failure c.Reply}
    (run : (store c).run.Runs may s es result s') :
    es = [⟨s, .store c, .ok a⟩] ∧ may (.store c) s (.ok a) s' ∧ result = .ok a := by
  obtain ⟨reply, rfl, hreply, rfl⟩ := runs_store.1 run
  have hanswer := (hmay _ _ hreply).trans ha
  cases reply with
  | error e => cases hanswer
  | ok b =>
    obtain rfl : b = a := Option.some.inj hanswer
    exact ⟨rfl, hreply, rfl⟩

end Operation

/-- What it comes to if a record has to be there. -/
def TenantId.demand (t : TenantId) :
    Except StoreError (Option ServerRecord) → Except Failure ServerRecord
  | .ok (some r) => .ok r
  | .ok none => .error (.notFound ("no server for tenant " ++ t.text))
  | .error e => .error (.persistence e.message)

theorem runs_requireServer {t : TenantId} {result : Except Failure ServerRecord} :
    (requireServer t).run.Runs may s es result s' ↔
      ∃ reply, es = [⟨s, .store (.find t), reply⟩] ∧ may (.store (.find t)) s reply s' ∧
        result = t.demand reply := by
  rw [requireServer, Operation.runs_bind]
  constructor
  · rintro (⟨es₁, found, s₁, es₂, hfind, hend, rfl⟩ | ⟨f, hfind, rfl⟩)
    · obtain ⟨reply, rfl, hreply, hfound⟩ := Operation.runs_store.1 hfind
      cases reply with
      | error e => cases hfound
      | ok =>
        cases hfound
        cases found <;>
        · obtain ⟨rfl, rfl, rfl⟩ := Program.runs_pure.1 hend
          exact ⟨_, rfl, hreply, rfl⟩
    · obtain ⟨reply, rfl, hreply, hfound⟩ := Operation.runs_store.1 hfind
      cases reply with
      | ok => cases hfound
      | error =>
        cases hfound
        exact ⟨_, rfl, hreply, rfl⟩
  · rintro ⟨reply, rfl, hreply, rfl⟩
    cases reply with
    | error e => exact .inr ⟨_, Operation.runs_store.2 ⟨_, rfl, hreply, rfl⟩, rfl⟩
    | ok o =>
      refine .inl ⟨_, o, s', [], Operation.runs_store.2 ⟨_, rfl, hreply, rfl⟩, ?_, rfl⟩
      cases o <;> exact .done _ _

/-- How pointing a deployment at a world may go. -/
inductive Launch (may : Habit σ) (name : String) (w : WorldDetails) (s : σ) :
    List (Exchange σ) → Except Failure Unit → σ → Prop
  | unseen {e : ClusterError} {s₁ : σ} (h : may (.cluster (.getDeployment name)) s (.error e) s₁) :
      Launch may name w s [⟨s, .cluster (.getDeployment name), .error e⟩]
        (.error (.cluster e.message)) s₁
  | gameless {d : Deployment} {s₁ : σ} (h : may (.cluster (.getDeployment name)) s (.ok d) s₁)
      (hd : d.setGameArgs? w.launchArgs = none) :
      Launch may name w s [⟨s, .cluster (.getDeployment name), .ok d⟩]
        (.error (.internal ("deployment " ++ name ++ " has no game container"))) s₁
  | sent {d d' : Deployment} {reply : Except ClusterError Unit} {s₁ s₂ : σ}
      (h : may (.cluster (.getDeployment name)) s (.ok d) s₁)
      (hd : d.setGameArgs? w.launchArgs = some d')
      (h' : may (.cluster (.replaceDeployment d')) s₁ reply s₂) :
      Launch may name w s [⟨s, .cluster (.getDeployment name), .ok d⟩,
        ⟨s₁, .cluster (.replaceDeployment d'), reply⟩] (reply.mapError (.cluster ·.message)) s₂

theorem launch_of_runs {name : String} {w : WorldDetails} {result : Except Failure Unit}
    (run : (launchWorld name w).run.Runs may s es result s') :
    Launch may name w s es result s' := by
  rcases Operation.runs_bind.1 run with ⟨es₁, d, s₁, es₂, hget, hrest, rfl⟩ | ⟨f, hget, rfl⟩
  · obtain ⟨reply, rfl, hreply, hd⟩ := Operation.runs_call.1 hget
    cases reply with
    | error e => cases hd
    | ok d =>
      cases hd
      cases hargs : d.setGameArgs? w.launchArgs with
      | none =>
        rw [hargs] at hrest
        obtain ⟨rfl, rfl, rfl⟩ := Program.runs_pure.1 hrest
        exact .gameless hreply hargs
      | some d' =>
        rw [hargs] at hrest
        obtain ⟨reply, rfl, hreplace, rfl⟩ := Operation.runs_call.1 hrest
        exact .sent hreply hargs hreplace
  · obtain ⟨reply, rfl, hreply, hd⟩ := Operation.runs_call.1 hget
    cases reply with
    | ok d => cases hd
    | error e =>
      cases hd
      exact .unseen hreply

namespace Holdings

variable {fault : ClusterError → Prop} {s s' : Holdings} {es : List (Exchange Holdings)}
variable {t : TenantId}

theorem runs_store {c : StoreCall} {a : c.Reply} {f : Records}
    (ha : s.records.answer c = (some a, f)) {result : Except Failure c.Reply}
    (run : (Operation.store c).run.Runs (habit fault) s es result s') :
    es = [⟨s, .store c, .ok a⟩] ∧ result = .ok a ∧ s' = { s with records := f } := by
  obtain ⟨hes, ⟨-, hs'⟩, hresult⟩ :=
    Operation.runs_store_answered (fun _ _ h => h.1) (congrArg Prod.fst ha) run
  exact ⟨hes, hresult, by rw [hs', ha]⟩

theorem runs_requireServer {result : Except Failure ServerRecord}
    (run : (requireServer t).run.Runs (habit fault) s es result s') :
    es = [⟨s, .store (.find t), .ok (s.records t)⟩] ∧ result = t.demand (.ok (s.records t)) ∧
      s' = s := by
  obtain ⟨reply, rfl, ⟨hreply, rfl⟩, rfl⟩ := Steading.runs_requireServer.1 run
  cases reply with
  | error e => cases hreply
  | ok o =>
    obtain rfl : o = s.records t := Option.some.inj hreply
    exact ⟨rfl, rfl, rfl⟩

/-- A record with the time on it takes the place of the old one, and nothing can go wrong. -/
theorem runs_rewrite (r : Int64 → ServerRecord) {result : Except Failure ServerView}
    (run : (do
      let now ← .now
      .store (.update (r now).server)
      return (r now).view : Operation ServerView).run.Runs (habit fault) s es result s')
    {old : ServerRecord} (hold : s.records t = some old) (ht : ∀ now, (r now).server.tenant = t)
    (hworld : ∀ now, (r now).world = old.world)
    (hcreated : ∀ now, (r now).server.createdAt = old.server.createdAt) :
    ∃ now, result = .ok (r now).view ∧ s' = s.putRecord t (some (r now)) := by
  rcases Operation.runs_bind.1 run with ⟨_, now, s₁, es₁, hnow, hrest, rfl⟩ | ⟨f, hnow, -⟩
  · obtain ⟨_, -, hs₁, hnow⟩ := Operation.runs_now.1 hnow
    cases hnow
    obtain rfl : s₁ = s := hs₁
    have hanswer := Records.answer_update (r := r now) ((congrArg s₁.records (ht now)).trans hold)
      (hworld now) (hcreated now)
    rcases Operation.runs_bind.1 hrest with ⟨_, _, s₂, es₂, hupdate, hend, rfl⟩ | ⟨f, hupdate, -⟩
    · obtain ⟨-, -, rfl⟩ := runs_store hanswer hupdate
      obtain ⟨-, rfl, rfl⟩ := Program.runs_pure.1 hend
      rw [ht]
      exact ⟨now, rfl, rfl⟩
    · obtain ⟨-, hf, -⟩ := runs_store hanswer hupdate
      cases hf
  · obtain ⟨_, -, -, hf⟩ := Operation.runs_now.1 hnow
    cases hf

/-- A deployment that is there, and can be, is launched into a world, unless the cluster refuses. -/
theorem runs_launchWorld (hs : s.Keyed) {name : String} {w : WorldDetails}
    {result : Except Failure Unit}
    (run : (launchWorld name w).run.Runs (habit fault) s es result s') :
    (∃ d, result = .ok () ∧ s.Relaunched name w.launchArgs d ∧
        s' = s.putDeployment name (some d)) ∨
      ∃ f, result = .error f ∧ (∀ text, f ≠ .persistence text) ∧ s' = s ∧
        ((∃ x ∈ es, x.refusal? ≠ none) ∨ ∀ d, ¬ s.Relaunched name w.launchArgs d) := by
  cases launch_of_runs run with
  | @unseen e _ h =>
    exact .inr ⟨_, rfl, by simp, h.2, .inl ⟨_, List.mem_singleton_self _, Option.some_ne_none e⟩⟩
  | gameless h hd =>
    obtain ⟨hget, rfl⟩ := h
    refine .inr ⟨_, rfl, by simp, rfl, .inr ?_⟩
    rintro d ⟨old, hold, hset⟩
    obtain rfl := Option.some.inj (hget.symm.trans hold)
    rw [hd] at hset
    cases hset
  | @sent d d' reply _ _ h hd h' =>
    obtain ⟨hget, rfl⟩ := h
    cases reply with
    | error e =>
      exact .inr ⟨_, rfl, by simp, h'.2,
        .inl ⟨_, List.mem_cons_of_mem _ (List.mem_singleton_self _), Option.some_ne_none e⟩⟩
    | ok =>
      have hname : d'.metadata.nameOrEmpty = name := by
        rw [Deployment.metadata_of_setGameArgs? hd]
        exact hs.deployments name d hget
      obtain ⟨-, rfl⟩ := h'
      rw [hname]
      exact .inl ⟨d', rfl, ⟨d, hget, hd⟩, rfl⟩

end Holdings

namespace Controller

variable {c : Controller} {t : Tenant}

/-- A world is settled with a fresh id under the tenant's plan, if there is a plan. -/
theorem runs_settleWorld {r : ServerRequest} {result : Except Failure (Entitlements × WorldDetails)}
    (run : (c.settleWorld t r).run.Runs may s es result s') :
    (∃ f, c.plans.entitlements t.subscription = .error f ∧ es = [] ∧ result = .error f ∧ s' = s) ∨
      ∃ e id, c.plans.entitlements t.subscription = .ok e ∧ es = [⟨s, .freshId, id⟩] ∧
        may .freshId s id s' ∧
        result = ((WorldDetails.ofRequest r e id).mapError .ofValidation).map (e, ·) := by
  rw [settleWorld] at run
  rcases Operation.runs_bind.1 run with ⟨es₁, e, s₁, es₂, hplan, hrest, rfl⟩ | ⟨f, hplan, rfl⟩
  · obtain ⟨rfl, he, rfl⟩ := Operation.runs_ofExcept.1 hplan
    have he : c.plans.entitlements t.subscription = .ok e := by
      cases h : c.plans.entitlements t.subscription <;> rw [h] at he <;> cases he
      rfl
    rcases Operation.runs_bind.1 hrest with ⟨es₁, id, s₂, es₃, hdraw, hfill, rfl⟩ | ⟨f, hdraw, -⟩
    · obtain ⟨_, rfl, hid, h⟩ := Operation.runs_lift_request.1 hdraw
      cases h
      refine .inr ⟨e, id, he, ?_⟩
      rcases Operation.runs_bind.1 hfill with
        ⟨es₄, w, s₃, es₅, hworld, hend, rfl⟩ | ⟨f, hworld, rfl⟩
      · obtain ⟨rfl, hw, rfl⟩ := Operation.runs_check.1 hworld
        obtain ⟨rfl, rfl, rfl⟩ := Program.runs_pure.1 hend
        exact ⟨rfl, hid, by rw [← hw]; rfl⟩
      · obtain ⟨rfl, hw, rfl⟩ := Operation.runs_check.1 hworld
        exact ⟨rfl, hid, by rw [← hw]; rfl⟩
    · obtain ⟨_, -, -, h⟩ := Operation.runs_lift_request.1 hdraw
      cases h
  · obtain ⟨rfl, hf, rfl⟩ := Operation.runs_ofExcept.1 hplan
    cases h : c.plans.entitlements t.subscription <;> rw [h] at hf <;> cases hf
    exact .inl ⟨_, rfl, rfl, rfl, rfl⟩

end Controller

end Steading
