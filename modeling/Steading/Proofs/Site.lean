import Steading.Proofs.Outcome

/-!
# Commands one after the other

A simulated cluster and a store in memory, and what happens to them while tenants' commands are
carried out one after the other: `Controller.Serves` collects an event for every command, whatever
of the cluster fails on the way.

All that is told of the cluster and the store is what they hold (`Site.runs_holdings`).
-/

namespace Steading

structure Site where
  cluster : SimulatedCluster
  store : MemoryStore

namespace Site

def empty (ns : String) : Site :=
  ⟨.empty ns, .empty⟩

def holdings (s : Site) : Holdings :=
  s.cluster.holdings s.store.find?

/-- Any call to the cluster may fail with one of the faults, and is recorded even so. The store
never fails, and the address may be anything or not be found. -/
def habit (fault : ClusterError → Prop) : Habit Site
  | .cluster c, s, reply, s' =>
    s'.store = s.store ∧
      (reply = ((s.cluster.record c).perform c).1 ∧
          s'.cluster = ((s.cluster.record c).perform c).2 ∨
        ∃ e, fault e ∧ reply = .error e ∧ s'.cluster = s.cluster.record c)
  | .store c, s, reply, s' =>
    s'.cluster = s.cluster ∧ reply = (s.store.answer c).1 ∧ s'.store = (s.store.answer c).2
  | .address, s, _, s' | .now, s, _, s' | .freshId, s, _, s' | .pause _, s, _, s' => s' = s

theorem habit_holdings {fault : ClusterError → Prop} (r : Request) (s : Site) (reply : r.Reply)
    (s' : Site) (h : habit fault r s reply s') :
    Holdings.habit fault r s.holdings reply s'.holdings := by
  cases r with
  | cluster c =>
    obtain ⟨hstore, ⟨rfl, hcluster⟩ | ⟨e, he, rfl, hcluster⟩⟩ := h <;>
      rw [holdings, holdings, hstore, hcluster]
    · exact SimulatedCluster.habit_perform fault _ _ _
    · exact ⟨.inl he, rfl⟩
  | store c =>
    obtain ⟨hcluster, rfl, hstore⟩ := h
    have hrecords := s.store.records_answer c
    rw [holdings, holdings, hcluster, hstore]
    exact ⟨congrArg Prod.fst hrecords, congrArg s.cluster.holdings (congrArg Prod.snd hrecords)⟩
  | address | now | freshId | pause => rw [show s' = s from h]; rfl

theorem runs_holdings {fault : ClusterError → Prop} {α : Type} {p : Program α} {s s' : Site}
    {es : List (Exchange Site)} {a : α} (run : p.Runs (habit fault) s es a s') :
    p.Runs (Holdings.habit fault) s.holdings (es.map (Exchange.map holdings)) a s'.holdings :=
  run.map habit_holdings

/-- Surroundings in which some calls to the cluster fail and all else goes well. -/
def outside (fails : ClusterOp → Bool) (ip : String) (time : Int64) (id : String) :
    Outside Site where
  answer
    | .cluster c, s =>
      if fails c.op then
        (.error (.api c.kind c.target (some 500) "injected failure"),
          { s with cluster := s.cluster.record c })
      else
        (((s.cluster.record c).perform c).1,
          { s with cluster := ((s.cluster.record c).perform c).2 })
    | .address, s => (.ok ip, s)
    | .store c, s => ((s.store.answer c).1, { s with store := (s.store.answer c).2 })
    | .now, s => (time, s)
    | .freshId, s => (id, s)
    | .pause _, s => ((), s)

theorem habit_outside {fault : ClusterError → Prop}
    (hfault : ∀ kind name, fault (.api kind name (some 500) "injected failure"))
    (fails : ClusterOp → Bool) (ip : String) (time : Int64) (id : String) (r : Request) (s : Site) :
    habit fault r s ((outside fails ip time id).answer r s).1
      ((outside fails ip time id).answer r s).2 := by
  cases r with
  | cluster c =>
    by_cases h : fails c.op = true
    · simp only [outside, h, ↓reduceIte]
      exact ⟨rfl, .inr ⟨_, hfault _ _, rfl, rfl⟩⟩
    · simp only [outside, h, Bool.false_eq_true, ↓reduceIte]
      exact ⟨rfl, .inl ⟨rfl, rfl⟩⟩
  | store c => exact ⟨rfl, rfl, rfl⟩
  | address | now | freshId | pause => rfl

end Site

/-- A command, what was asked and replied on the way, and what came of it. -/
structure Event where
  tenant : Tenant
  command : Command
  before : Site
  exchanges : List (Exchange Site)
  result : Except Failure Answer
  after : Site

def Event.ofOutside (o : Outside Site) (c : Controller) (t : Tenant) (command : Command)
    (s : Site) : Event where
  tenant := t
  command := command
  before := s
  exchanges := (command.program c t).trace o s
  result := ((command.program c t).run o s).1
  after := ((command.program c t).run o s).2

/-- With these events, commands one after the other may lead from a site to another. -/
inductive Controller.Serves (c : Controller) (fault : ClusterError → Prop) (s : Site) :
    List Event → Site → Prop
  | start : c.Serves fault s [] s
  | next {es : List Event} {s₁ s₂ : Site} (t : Tenant) (command : Command)
      {xs : List (Exchange Site)} {result : Except Failure Answer} (h : c.Serves fault s es s₁)
      (run : (command.program c t).Runs (Site.habit fault) s₁ xs result s₂) :
      c.Serves fault s (es ++ [⟨t, command, s₁, xs, result, s₂⟩]) s₂

namespace Controller

variable {c : Controller} {fault : ClusterError → Prop} {s s' : Site} {es : List Event}

theorem outcome_of_runs_site {t : Tenant} {command : Command} {xs : List (Exchange Site)}
    {result : Except Failure Answer} (hs : s.holdings.Keyed)
    (run : (command.program c t).Runs (Site.habit fault) s xs result s') :
    s'.holdings.Keyed ∧
      (∀ x ∈ xs, c.Orderly fault t.id s.holdings x.request x.state.holdings) ∧
      c.Outcome fault t s.holdings command result s'.holdings := by
  have hrun := Site.runs_holdings run
  obtain ⟨horderly, houtcome⟩ := outcome_of_runs hs hrun
  exact ⟨(hrun.invariant Holdings.keyed_habit hs).2, List.forall_mem_map.1 horderly, houtcome⟩

theorem Serves.next_outside (h : c.Serves fault s es s')
    (hfault : ∀ kind name, fault (.api kind name (some 500) "injected failure"))
    (fails : ClusterOp → Bool) (ip : String) (time : Int64) (id : String) (t : Tenant)
    (command : Command) :
    c.Serves fault s (es ++ [.ofOutside (Site.outside fails ip time id) c t command s'])
      (Event.ofOutside (Site.outside fails ip time id) c t command s').after :=
  h.next t command (Program.runs_run _ (Site.habit_outside hfault fails ip time id) _ _)

/-- What no outcome of a command breaks holds after any commands. -/
theorem Serves.invariant {I : Holdings → Prop}
    (hI : ∀ {t command result s s'}, I s → c.Outcome fault t s command result s' → I s')
    (h : c.Serves fault s es s') (hkeyed : s.holdings.Keyed) (hs : I s.holdings) :
    s'.holdings.Keyed ∧ I s'.holdings := by
  induction h with
  | start => exact ⟨hkeyed, hs⟩
  | next t command _ run ih =>
    obtain ⟨hkeyed', -, houtcome⟩ := outcome_of_runs_site ih.1 run
    exact ⟨hkeyed', hI ih.2 houtcome⟩

section

variable {ns : String}

theorem Serves.keyed (h : c.Serves fault (.empty ns) es s) : s.holdings.Keyed :=
  (h.invariant (I := fun _ => True) (fun _ _ => trivial) Holdings.Keyed.empty trivial).1

theorem Serves.outcome_of_mem (h : c.Serves fault (.empty ns) es s) {e : Event} (he : e ∈ es) :
    c.Outcome fault e.tenant e.before.holdings e.command e.result e.after.holdings := by
  induction h with
  | start => cases he
  | next t command h run ih =>
    rcases List.mem_append.1 he with he | he
    · exact ih he
    · obtain rfl := List.mem_singleton.1 he
      exact (outcome_of_runs_site h.keyed run).2.2

end

/-- A controller with the plans that come with the program. -/
def sample : Controller where
  plans := .builtin
  manifests := {
    ns := "longhall"
    serverImage := "server"
    sidecarImage := "sidecar"
    storageClass := none
    volumeGi := 10 }
  settle := .default

end Controller

def ServerRequest.sample : ServerRequest where
  name := "Midgard"
  world := "Yggdrasil"
  password := "bifrost"
  port := none
  crossplay := true
  isPublic := false
  saveInterval := none
  backupCount := none
  initialBackup := none
  backupInterval := none
  cpu := some 8
  memory := some 16
  modifiers := [⟨"Combat", "hard"⟩]

namespace Controller

/-- A player of the premium plan. -/
def sampleTenant : Tenant :=
  ⟨default, "premium"⟩

def sampleOutside : Outside Site :=
  Site.outside (fun _ => false) "203.0.113.7" 0 "5ead"

/-- What there is once the sample server has been created. -/
def founded : Site :=
  (Event.ofOutside sampleOutside sample sampleTenant (.create .sample) (.empty "longhall")).after

theorem exists_serves_founded :
    ∃ es, sample.Serves (fun e => e.isNotFound = false) (.empty "longhall") es founded :=
  ⟨_, Serves.start.next_outside (fun _ _ => rfl) _ _ _ _ sampleTenant (.create .sample)⟩

theorem runs_sampleOutside {α : Type} (p : Program α) (s : Site) :
    p.Runs (Site.habit fun e => e.isNotFound = false) s (p.trace sampleOutside s)
      (p.run sampleOutside s).1 (p.run sampleOutside s).2 :=
  p.runs_run sampleOutside (Site.habit_outside (fun _ _ => rfl) _ _ _ _) s

end Controller

end Steading
