import Steading.CommandLine.Rehearsal
import Steading.Proofs.Estate
import Steading.Proofs.Paths

/-!
# Requests stay with their tenant

Over HTTP a command asks for nothing but its tenant's claim and deployment in one namespace, and
what it adds there goes by the tenant's names in that namespace
(`CommandLine.requests_stay_with_tenant`). The names are the tenant's whether a command makes them
up, finds them on record or reads them from a deployment: a store that earlier runs have left, or
that one of them was cut off with, has no others in it (`CommandLine.Kept.owned`).
-/

namespace Steading

/-! ## Stores -/

namespace TableStore

variable {s : TableStore} {t : TenantId}

/-- All that is in the tables can be read, and every server goes by its own tenant's names. -/
def Owned (s : TableStore) : Prop :=
  ∃ f, s.Keeps f ∧ ∀ t r, f t = some r → r.server.Own t

theorem Owned.empty : empty.Owned :=
  ⟨_, .empty, fun _ _ h => by cases h⟩

theorem Owned.answer (h : s.Owned) {c : StoreCall} (hc : c.Own t)
    (hw : c.Writes WorldDetails.IsCanonical) (p : Metadata → Prop) :
    Habit.candid p (.store c) () (s.answer c).1 () ∧ (s.answer c).2.Owned := by
  obtain ⟨f, hkeeps, hown⟩ := h
  constructor
  · cases c with
    | find u =>
      intro r hr
      have hfound : s.find u = .ok (some r) := hr
      rw [hkeeps.find] at hfound
      exact hown u r (Except.ok.inj hfound)
    | _ => trivial
  · refine ⟨_, (hkeeps.answer (StoreCall.isCanonical_iff.2 hw)).2, fun u r hr => ?_⟩
    by_cases hu : u = t
    · subst hu
      exact Records.own_answer (hown u) hc r hr
    · rw [Records.answer_of_ne (hc.tenant_eq ▸ hu)] at hr
      exact hown u r hr

end TableStore

namespace CommandLine

namespace Rehearsal

/-- To reply to calls as the script and the store do, and anything to all else. -/
def habit : Habit Rehearsal
  | .cluster c, s, reply, s' =>
    reply = (s.cluster.answer c s.script).1 ∧
      s' = { s with script := (s.cluster.answer c s.script).2 }
  | .store c, s, reply, s' =>
    reply = (s.store.answer c).1 ∧ s' = { s with store := (s.store.answer c).2 }
  | _, s, _, s' => ∃ drawn, s' = { s with drawn }

variable {α : Type} {s s' : Rehearsal} {r : Request} {reply : r.Reply}

theorem habit_answer (r : Request) (s : Rehearsal) :
    habit r s (outside.answer r s).1 (outside.answer r s).2 := by
  cases r with
  | cluster | store => exact ⟨rfl, rfl⟩
  | address | now | freshId | pause => exact ⟨_, rfl⟩

theorem cluster_of_habit (h : habit r s reply s') : s'.cluster = s.cluster := by
  cases r with
  | cluster | store => exact h.2 ▸ rfl
  | address | now | freshId | pause =>
    obtain ⟨drawn, rfl⟩ := h
    rfl

theorem script_of_habit (h : habit r s reply s') :
    s'.script = (outside.answer r s).2.script := by
  cases r with
  | cluster | store => exact h.2 ▸ rfl
  | address | now | freshId | pause =>
    obtain ⟨drawn, rfl⟩ := h
    rfl

theorem leadsTo_answer (r : Request) (s : Rehearsal) :
    s.script.LeadsTo (outside.answer r s).2.script := by
  cases r with
  | cluster c =>
    show s.script.LeadsTo (s.cluster.answer c s.script).2
    rw [HttpCluster.answer]
    split
    · exact .refl _
    · exact s.script.leadsTo_send _
  | address | store | now | freshId | pause => exact .refl _

/-- At the end of a run the script has gone on from where each request has left it. -/
theorem leadsTo_of_runs {p : Program α} {es : List (Exchange Rehearsal)} {a : α}
    (run : p.Runs habit s es a s') :
    s.script.LeadsTo s'.script ∧
      ∀ e ∈ es, (outside.answer e.request e.state).2.script.LeadsTo s'.script := by
  induction run with
  | done a s => exact ⟨.refl _, by simp⟩
  | ask h _ ih =>
    obtain ⟨hrest, hes⟩ := ih
    rw [script_of_habit h] at hrest
    exact ⟨(leadsTo_answer _ _).trans hrest, List.forall_mem_cons.2 ⟨hrest, hes⟩⟩

end Rehearsal

/-- What the records may be after earlier runs, of whatever kind and with whatever replies, each of
which has come to its end or was cut off before some request. -/
inductive Kept : TableStore → Prop
  | empty : Kept .empty
  | run {s : Session} (h : Kept s.store) (replies : List HttpReply) (address : IngressReply)
      (time : Int64) {es : List (Exchange Rehearsal)} {result : Except Failure Answer}
      {r : Rehearsal}
      (run : s.program.Runs Rehearsal.habit (.ofSession s replies address time) es result r) :
      Kept r.store
  | cutOff {s : Session} (h : Kept s.store) (replies : List HttpReply) (address : IngressReply)
      (time : Int64) {es : List (Exchange Rehearsal)} {result : Except Failure Answer}
      {r : Rehearsal}
      (run : s.program.Runs Rehearsal.habit (.ofSession s replies address time) es result r)
      {e : Exchange Rehearsal} (he : e ∈ es) : Kept e.state.store

theorem Session.writes_of_runs {s : Session} {r r' : Rehearsal} {es : List (Exchange Rehearsal)}
    {result : Except Failure Answer} (run : s.program.Runs Rehearsal.habit r es result r') :
    ∀ e ∈ es, e.request.Writes WorldDetails.IsCanonical :=
  Controller.writes_of_runs (fun _ hw => (WorldDetails.sound_of_ofRequest hw).isCanonical) run

/-- Whatever the replies are, the store stays as it was all through a run. -/
theorem Session.owned_of_runs {s : Session} {r r' : Rehearsal} {es : List (Exchange Rehearsal)}
    {result : Except Failure Answer} (hr : r.store.Owned)
    (run : s.program.Runs Rehearsal.habit r es result r') :
    (∀ e ∈ es, e.state.store.Owned) ∧ r'.store.Owned := by
  have step : ∀ (q : Request) (r : Rehearsal) (reply : q.Reply) (r' : Rehearsal),
      q.Own s.controller.manifests.ns s.tenant.id (fun _ => True) →
      q.Writes WorldDetails.IsCanonical → r.store.Owned → Rehearsal.habit q r reply r' →
      Habit.candid (fun _ => True) q () reply () ∧ r'.store.Owned := by
    intro q r reply r' hown hw hr h
    cases q with
    | cluster c =>
      refine ⟨?_, h.2 ▸ hr⟩
      cases c with
      | getDeployment name => exact fun _ _ => trivial
      | _ => trivial
    | store c =>
      obtain ⟨rfl, rfl⟩ := h
      exact hr.answer hown hw _
    | address | now | freshId | pause =>
      obtain ⟨drawn, rfl⟩ := h
      exact ⟨trivial, hr⟩
  obtain ⟨hes, hend⟩ := Program.Ensures.invariant_of_runs
    (K := fun e => e.request.Writes WorldDetails.IsCanonical) step (Controller.own_operation ())
    run (writes_of_runs run) hr
  exact ⟨fun e he => (hes e he).2, hend⟩

theorem Kept.owned {s : TableStore} (h : Kept s) : s.Owned := by
  induction h with
  | empty => exact .empty
  | run _ _ _ _ run ih => exact (Session.owned_of_runs ih run).2
  | cutOff _ _ _ _ run he ih => exact (Session.owned_of_runs ih run).1 _ he

/-! ## Runs -/

/-- Where a deployment has been read, it is one of the name that was asked for. -/
def NamesAsked (ns : String) (x : HttpRequest × HttpReply) : Prop :=
  ∀ name status body d,
    x = (.get (Kind.deployment.objectPath ns name), .received status body) →
      isHttpFailure status = false → (Json.parse body).bind Deployment.ofJson? = some d →
        d.metadata.name = some name

namespace Session

/-- How things are on the way of a session, which has been given these replies. -/
structure Proper (s : Session) (prepared : List HttpReply) (r : Rehearsal) : Prop where
  cluster : r.cluster = s.cluster
  store : r.store.Owned
  script : (⟨prepared, []⟩ : HttpScript).LeadsTo r.script
  requests : ∀ request ∈ r.script.requests, request.StaysWith s.cluster.ns s.tenant.id

/-- The deployments that are read are the tenant's. -/
abbrev habit (s : Session) : Habit Unit :=
  Habit.candid (·.name = some s.tenant.id.deploymentName)

/-- What is asked for on the way is the tenant's own. -/
abbrev Asks (s : Session) (q : Request) : Prop :=
  q.Own s.cluster.ns s.tenant.id (·.name = some s.tenant.id.deploymentName)

variable {s : Session} {prepared : List HttpReply} {final : HttpScript}

theorem Proper.call {r : Rehearsal} (h : s.Proper prepared r) {c : ClusterCall}
    (hc : s.Asks (.cluster c)) (hns : Target.IsBare s.cluster.ns)
    (hlater : (s.cluster.answer c r.script).2.LeadsTo final)
    (hreplies : ∀ x ∈ final.requests.zip prepared, NamesAsked s.cluster.ns x) :
    s.habit (.cluster c) () (s.cluster.answer c r.script).1 () ∧
      ∀ request ∈ (s.cluster.answer c r.script).2.requests,
        request.StaysWith s.cluster.ns s.tenant.id := by
  rcases HttpCluster.answer_cases hc hns r.script with ⟨e, hanswer⟩ | hanswer
  · rw [hanswer]
    refine ⟨?_, h.requests⟩
    cases c with
    | getDeployment name =>
      intro d hd
      cases hd
    | _ => trivial
  · rw [hanswer] at hlater ⊢
    constructor
    · cases c with
      | getDeployment name =>
        obtain rfl : name = s.tenant.id.deploymentName := hc
        intro d hd
        obtain ⟨status, body, hreply, hfailure, hdecode⟩ := HttpCluster.received_of_interpret hd
        exact hreplies _ (h.script.mem_zip hreply hlater) _ status body d rfl hfailure hdecode
      | _ => trivial
    · rw [HttpScript.requests_send]
      intro request hrequest
      rcases List.mem_append.1 hrequest with hrequest | hrequest
      · exact h.requests request hrequest
      · obtain rfl := List.mem_singleton.1 hrequest
        exact ClusterCall.Own.staysWith hc hns

theorem Proper.answer {q : Request} {r : Rehearsal} {reply : q.Reply} {r' : Rehearsal}
    (h : s.Proper prepared r) (hq : s.Asks q) (hns : Target.IsBare s.cluster.ns)
    (hw : q.Writes WorldDetails.IsCanonical)
    (hlater : (Rehearsal.outside.answer q r).2.script.LeadsTo final)
    (hreplies : ∀ x ∈ final.requests.zip prepared, NamesAsked s.cluster.ns x)
    (hanswer : Rehearsal.habit q r reply r') : s.habit q () reply () ∧ s.Proper prepared r' := by
  have hcluster := (Rehearsal.cluster_of_habit hanswer).trans h.cluster
  have hscript := h.script.trans (Rehearsal.leadsTo_answer q r)
  rw [← Rehearsal.script_of_habit hanswer] at hscript
  cases q with
  | cluster c =>
    obtain ⟨rfl, rfl⟩ := hanswer
    have hsame : r.cluster.answer c r.script = s.cluster.answer c r.script := by rw [h.cluster]
    have hlater' : (s.cluster.answer c r.script).2.LeadsTo final := hsame ▸ hlater
    obtain ⟨htold, hrequests⟩ := h.call hq hns hlater' hreplies
    rw [← hsame] at htold hrequests
    exact ⟨htold, hcluster, h.store, hscript, hrequests⟩
  | store c =>
    obtain ⟨rfl, rfl⟩ := hanswer
    obtain ⟨htold, hstore⟩ := h.store.answer hq hw (·.name = some s.tenant.id.deploymentName)
    exact ⟨htold, hcluster, hstore, hscript, h.requests⟩
  | address | now | freshId | pause =>
    obtain ⟨drawn, rfl⟩ := hanswer
    exact ⟨trivial, hcluster, h.store, hscript, h.requests⟩

/-- All that a session sends stays with its tenant. -/
theorem stays {address : IngressReply} {time : Int64} {es : List (Exchange Rehearsal)}
    {result : Except Failure Answer} {r : Rehearsal}
    (hcontroller : s.controller.manifests.ns = s.cluster.ns)
    (hns : Target.IsBare s.cluster.ns) (hstore : s.store.Owned)
    (run : s.program.Runs Rehearsal.habit (.ofSession s prepared address time) es result r)
    (hreplies : ∀ x ∈ r.script.requests.zip prepared, NamesAsked s.cluster.ns x) :
    ∀ request ∈ r.script.requests, request.StaysWith s.cluster.ns s.tenant.id := by
  have hproper : s.Proper prepared (.ofSession s prepared address time) :=
    ⟨rfl, hstore, .refl _, by simp [Rehearsal.ofSession]⟩
  have hown : (s.command.operation s.controller s.tenant).Always s.habit
      (·.Own s.controller.manifests.ns s.tenant.id (·.name = some s.tenant.id.deploymentName))
      fun _ => True := Controller.own_operation
  rw [hcontroller] at hown
  have hend := Program.Ensures.invariant_of_runs
    (K := fun e => e.request.Writes WorldDetails.IsCanonical ∧
      (Rehearsal.outside.answer e.request e.state).2.script.LeadsTo r.script)
    (fun _ _ _ _ hq hknown h hanswer => h.answer hq hns hknown.1 hknown.2 hreplies hanswer)
    (hown ()) run
    (fun e he => ⟨writes_of_runs run e he, (Rehearsal.leadsTo_of_runs run).2 e he⟩) hproper
  exact hend.2.requests

end Session

/-! ## The command line -/

theorem exists_of_run_bind {ε α β : Type} {x : ExceptT ε Id α} {f : α → ExceptT ε Id β} {b : β}
    (h : (x >>= f).run = .ok b) : ∃ a, x.run = .ok a ∧ (f a).run = .ok b := by
  rw [ExceptT.run_bind] at h
  cases hx : x.run with
  | ok a =>
    rw [hx] at h
    exact ⟨a, rfl, h⟩
  | error e =>
    rw [hx] at h
    cases h

/-- What a session that is about to run goes by. -/
theorem Invocation.of_start {s : Surroundings Id} {i : Invocation} {session : Session}
    (h : (i.start s).run = .ok session) :
    i.requireTenant = .ok session.tenant ∧
      s.store (storePath s.env) = .ok session.store ∧
      session.cluster.ns = (i.settings s.env).manifests.ns ∧
      session.controller.manifests = (i.settings s.env).manifests := by
  rw [Invocation.start] at h
  obtain ⟨tenant, htenant, h⟩ := exists_of_run_bind h
  obtain ⟨command, -, h⟩ := exists_of_run_bind h
  dsimp only at h
  by_cases hexclusive : command.isExclusive = true
  · simp only [hexclusive, if_true] at h
    obtain ⟨knows, -, h⟩ := exists_of_run_bind h
    cases knows with
    | false => cases h
    | true =>
      obtain ⟨store, hstore, h⟩ := exists_of_run_bind h
      obtain ⟨plans, -, h⟩ := exists_of_run_bind h
      obtain rfl := Except.ok.inj h
      exact ⟨htenant, hstore, rfl, rfl⟩
  · simp only [hexclusive] at h
    obtain ⟨store, hstore, h⟩ := exists_of_run_bind h
    obtain rfl := Except.ok.inj h
    exact ⟨htenant, hstore, rfl, rfl⟩

/-- With these words and these replies a run may leave this behind, whatever the address, the time
and the fresh ids are. -/
inductive Leaves (s : Surroundings Id) (words : List String) (replies : List HttpReply) :
    Rehearsal → Prop
  | of_run {i : Invocation} {session : Session} (hi : Invocation.ofArguments s.env words = .ok i)
      (hstart : (i.start s).run = .ok session) (address : IngressReply) (time : Int64)
      {es : List (Exchange Rehearsal)} {result : Except Failure Answer} {r : Rehearsal}
      (run : session.program.Runs Rehearsal.habit (.ofSession session replies address time) es
        result r) : Leaves s words replies r

variable {s : Surroundings Id} {words : List String} {replies : List HttpReply} {r : Rehearsal}

theorem leaves_of_rehearsal {address : IngressReply} {time : Int64}
    (hr : (rehearse s replies address time words).run.rehearsal = some r) :
    Leaves s words replies r := by
  rw [rehearse] at hr
  cases hi : Invocation.ofArguments s.env words with
  | error halt =>
    rw [hi] at hr
    cases hr
  | ok i =>
    rw [hi] at hr
    dsimp only [Id.run_bind] at hr
    cases hstart : (i.start s).run with
    | error e =>
      rw [hstart] at hr
      cases hr
    | ok session =>
      rw [hstart] at hr
      obtain rfl := Option.some.inj hr
      exact .of_run hi hstart address time
        (session.program.runs_run Rehearsal.outside Rehearsal.habit_answer _)

/-- Whatever a run sends to the cluster lies below its namespace and is about its tenant's claim or
deployment, and what it adds there goes by the tenant's name in that namespace. -/
theorem requests_stay_with_tenant {i : Invocation} {t : Tenant}
    (hi : Invocation.ofArguments s.env words = .ok i) (ht : i.requireTenant = .ok t)
    (hns : isLabel (i.settings s.env).manifests.ns.toList = true)
    (hstore : ∀ store, s.store (storePath s.env) = .ok store → Kept store)
    (hr : Leaves s words replies r)
    (hreplies : ∀ x ∈ r.script.requests.zip replies, NamesAsked (i.settings s.env).manifests.ns x) :
    ∀ request ∈ r.script.requests,
      request.StaysWith (i.settings s.env).manifests.ns t.id := by
  obtain ⟨hi', hstart, address, time, run⟩ := hr
  obtain rfl := Except.ok.inj (hi'.symm.trans hi)
  obtain ⟨htenant, hkept, hcluster, hcontroller⟩ := Invocation.of_start hstart
  obtain rfl := Except.ok.inj (htenant.symm.trans ht)
  rw [← hcluster] at hns hreplies ⊢
  exact Session.stays (by rw [hcontroller, hcluster]) (Target.isBare_of_isLabel hns)
    (hstore _ hkept).owned run hreplies

/-- The sample server is created in one namespace. -/
def Session.founding : Session where
  tenant := Controller.sampleTenant
  command := .create .sample
  controller := .sample
  cluster := ⟨"longhall", .ofSecs 30⟩
  address := .fixed "203.0.113.7"
  store := .empty

/-- A server that has been created in one namespace is scaled in another: its deployment is read
there and sent back, and nothing more comes from the cluster. -/
theorem requests_stay_of_scaling :
    let t := Controller.sampleTenant.id
    let created : Rehearsal := ((Rehearsal.ofSession .founding
      [.nothing, .received 201 (Json.obj []).compact, .received 201 (Json.obj []).compact]
      .unreachable 0).run .founding).2
    let s : Surroundings Id := {
      env := fun _ => none, file := fun _ => none, input := none, knowsCluster := true
      store := fun _ => .ok created.store }
    let d : Deployment := {
      metadata := { name := some t.deploymentName }
      spec := some { template := { spec := some { containers := [{ name := gameContainer }] } } } }
    let found : HttpReply := .received 200 d.toJson.compact
    ∃ r, (rehearse s [found] .unreachable 0
        ["scale", "--replicas", "0", "--tenant", t.text, "--ns", "games"]).run.rehearsal = some r ∧
      r.script.requests.length = 2 ∧
      ∀ request ∈ r.script.requests, request.StaysWith "games" t := by
  intro t created s d found
  let i : Invocation := {
    output := .human, ns := some "games", tenant := some t.text, subscription := "basic"
    ingressIp := none, job := .scale ⟨0⟩ }
  have hi : Invocation.ofArguments s.env
      ["scale", "--replicas", "0", "--tenant", t.text, "--ns", "games"] = .ok i := by
    decide +kernel
  have ht : i.requireTenant = .ok ⟨t, "basic"⟩ := by decide +kernel
  -- Worked out together, because it takes long to read a deployment.
  obtain ⟨hread, hsent⟩ :
      ((Json.parse d.toJson.compact).bind Deployment.ofJson?).map (·.metadata.name) =
        some (some t.deploymentName) ∧
      ((rehearse s [found] .unreachable 0
        ["scale", "--replicas", "0", "--tenant", t.text, "--ns", "games"]).run.rehearsal.map fun r =>
          (r.script.requests.length,
            (r.script.requests.filter (·.method == .get)).map (·.uri))) =
        some (2, [Kind.deployment.objectPath "games" t.deploymentName]) := by decide +kernel
  obtain ⟨r, hr, hrequests⟩ := Option.map_eq_some_iff.1 hsent
  obtain ⟨hlength, hgets⟩ := Prod.mk.inj hrequests
  refine ⟨r, hr, hlength,
    requests_stay_with_tenant (t := ⟨t, "basic"⟩) hi ht (by decide) ?_
      (leaves_of_rehearsal hr) ?_⟩
  · intro store hstore
    obtain rfl := Except.ok.inj hstore
    exact .run .empty _ _ _ (Program.runs_run _ Rehearsal.habit_answer _ _)
  -- The one deployment that is asked for is the one that is found.
  · rintro x hx name status body d' rfl - hd'
    obtain ⟨hrequest, hreply⟩ := List.of_mem_zip hx
    have huri : Kind.deployment.objectPath "games" name ∈
        [Kind.deployment.objectPath "games" t.deploymentName] := by
      rw [← hgets]
      exact List.mem_map.2 ⟨_, List.mem_filter.2 ⟨hrequest, rfl⟩, rfl⟩
    have hname : name = t.deploymentName :=
      (String.append_right_inj _).1 (List.mem_singleton.1 huri)
    obtain ⟨-, rfl⟩ : status = 200 ∧ body = d.toJson.compact := by simpa [found] using hreply
    rw [hd'] at hread
    rw [hname]
    exact Option.some.inj hread

end CommandLine

end Steading
