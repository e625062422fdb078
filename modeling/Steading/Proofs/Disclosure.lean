import Steading.Proofs.Estate
import Steading.Proofs.RoundTrip
import Steading.Proofs.Secrecy

/-!
# Instance ids are kept from callers

A view has an empty id, and its text has no member for one. Two runs of the same commands under the
same circumstances differ in nothing but the ids on record and what the games are told, whatever ids
are drawn in either (`Controller.no_disclosure`): nothing that a caller gets to see tells of them.
-/

namespace Steading

theorem StoreBackend.find_redacted (b : StoreBackend) (t : TenantId) :
    b.redacted.find t = (b.find t).map (Option.map ServerRecord.redacted) :=
  congrArg Prod.fst (b.answer_redacted (.find t))

/-! ## Views -/

/-- Somewhere in a value there is an object with a member of the name. -/
inductive Json.HasMember (name : String) : Json → Prop
  | here {ms : List (String × Json)} {j : Json} (h : (name, j) ∈ ms) : HasMember name (.obj ms)
  | member {ms : List (String × Json)} {m : String × Json} (h : m ∈ ms)
      (hm : HasMember name m.2) : HasMember name (.obj ms)
  | item {js : List Json} {j : Json} (h : j ∈ js) (hj : HasMember name j) : HasMember name (.arr js)

namespace Json

variable {name : String}

theorem hasMember_obj_iff {ms : List (String × Json)} :
    (obj ms).HasMember name ↔ ∃ m ∈ ms, m.1 = name ∨ m.2.HasMember name := by
  constructor
  · rintro (⟨h⟩ | ⟨h, hm⟩)
    · exact ⟨_, h, .inl rfl⟩
    · exact ⟨_, h, .inr hm⟩
  · rintro ⟨⟨_, j⟩, h, rfl | hm⟩
    · exact .here h
    · exact .member h hm

theorem hasMember_arr_iff {js : List Json} :
    (arr js).HasMember name ↔ ∃ j ∈ js, j.HasMember name := by
  constructor
  · rintro ⟨⟩
    exact ⟨_, ‹_›, ‹_›⟩
  · rintro ⟨j, h, hj⟩
    exact .item h hj

theorem not_hasMember_str (s : String) : ¬ (str s).HasMember name := nofun

theorem not_hasMember_int (n : Int) : ¬ (int n).HasMember name := nofun

theorem not_hasMember_bool (b : Bool) : ¬ (bool b).HasMember name := nofun

end Json

theorem Modifier.not_hasMember_toJson (m : Modifier) : ¬ m.toJson.HasMember "instance_id" := by
  simp [toJson, ModifierKey.toJson, Json.hasMember_obj_iff, Json.not_hasMember_str]

theorem Server.not_hasMember_toJson (s : Server) : ¬ s.toJson.HasMember "instance_id" := by
  simp [toJson, TenantId.toJson, ServerState.toJson, Json.uint16, Json.uint32, Json.int64,
    Json.hasMember_obj_iff, Json.not_hasMember_str, Json.not_hasMember_int]

theorem WorldDetails.not_hasMember_toJson {w : WorldDetails} (h : w.instanceId = "") :
    ¬ w.toJson.HasMember "instance_id" := by
  simp [toJson, h, Json.uint16, Json.uint32, Json.hasMember_obj_iff, Json.hasMember_arr_iff,
    Json.not_hasMember_str, Json.not_hasMember_int, Json.not_hasMember_bool,
    Modifier.not_hasMember_toJson]

theorem ServerView.not_hasMember_toJson {v : ServerView} (h : v.world.instanceId = "") :
    ¬ v.toJson.HasMember "instance_id" := by
  simp [toJson, Json.hasMember_obj_iff, v.server.not_hasMember_toJson,
    WorldDetails.not_hasMember_toJson h]

/-! ## Runs -/

/-- What can be arranged while programs run. -/
inductive Arrangement
  | failOn (op : ClusterOp) (name : String)
  | clearFailures
  | linger (name : String) (lookups : Nat)
  | failStore (m : StoreMethod) (causes : List String)
  | missWorlds
  | healStore
  | address (found : Except ClusterError String)
  | time (now : Int64)

def Simulation.arrange (s : Simulation) : Arrangement → Simulation
  | .failOn op name => { s with cluster := s.cluster.failOn op name }
  | .clearFailures => { s with cluster := s.cluster.clearFailures }
  | .linger name lookups => { s with cluster := s.cluster.linger name lookups }
  | .failStore m causes => { s with store := s.store.failOn m causes }
  | .missWorlds => { s with store := s.store.missWorlds }
  | .healStore => { s with store := s.store.heal }
  | .address found => { s with address := found }
  | .time now => { s with time := now }

theorem Simulation.arrange_redacted (s : Simulation) (a : Arrangement) :
    (s.arrange a).redacted = s.redacted.arrange a := by
  cases a <;> rfl

/-- What is arranged before each request. -/
abbrev Script : Type :=
  Nat → List Arrangement

/-- A simulation, and how many requests have been made of it. -/
structure Stage where
  simulation : Simulation
  asked : Nat

namespace Stage

def redacted (s : Stage) : Stage :=
  { s with simulation := s.simulation.redacted }

/-- A simulation that follows a script, with ids drawn from a sequence. -/
def outside (script : Script) (ids : Nat → String) : Outside Stage where
  answer r s :=
    let ready := (script s.asked).foldl Simulation.arrange s.simulation
    (((Simulation.drawing ids).answer r ready).1,
      ⟨((Simulation.drawing ids).answer r ready).2, s.asked + 1⟩)

theorem alike_outside (script : Script) (ids ids' : Nat → String) :
    (outside script ids).Alike (fun s s' => s.redacted = s'.redacted) (outside script ids') := by
  rintro r r' ⟨s, asked⟩ ⟨s', asked'⟩ hr hs
  obtain ⟨hs, rfl⟩ := Stage.mk.inj hs
  replace hs : s.redacted = s'.redacted := hs
  have arranged : ∀ s : Simulation, ((script asked).foldl Simulation.arrange s).redacted =
      (script asked).foldl Simulation.arrange s.redacted := fun s =>
    (List.foldl_hom _ fun s a => (s.arrange_redacted a).symm).symm
  have hready : ((script asked).foldl Simulation.arrange s).redacted =
      ((script asked).foldl Simulation.arrange s').redacted := by rw [arranged, arranged, hs]
  obtain ⟨hreply, hs'⟩ := Simulation.alike_drawing ids ids' hr hready
  exact ⟨hreply, congrArg (Stage.mk · (asked + 1)) hs'⟩

end Stage

/-- The answers to commands one after the other, and what they leave. -/
def Controller.carryOut {σ : Type} (c : Controller) (o : Outside σ) :
    List (Tenant × Command) → σ → List (Except Failure Answer) × σ
  | [], s => ([], s)
  | (t, command) :: calls, s =>
    let first := (command.program c t).run o s
    let rest := c.carryOut o calls first.2
    (first.1 :: rest.1, rest.2)

theorem Controller.alike_carryOut {σ : Type} (c : Controller) {E : σ → σ → Prop}
    {o o' : Outside σ} (ho : o.Alike E o') :
    ∀ (calls : List (Tenant × Command)) {s s' : σ}, E s s' →
      (c.carryOut o' calls s').1 = (c.carryOut o calls s).1 ∧
        (∀ v, .ok (.server v) ∈ (c.carryOut o calls s).1 → v.world.instanceId = "") ∧
          E (c.carryOut o calls s).2 (c.carryOut o' calls s').2
  | [], _, _, hs => ⟨rfl, (fun _ hv => by cases hv), hs⟩
  | (t, command) :: calls, s, s', hs => by
    obtain ⟨⟨hresult, hview⟩, hs⟩ := (command.alike_program c t).run ho hs
    obtain ⟨hresults, hviews, hs⟩ := alike_carryOut c ho calls hs
    refine ⟨List.cons_eq_cons.2 ⟨hresult, hresults⟩, fun v hv => ?_, hs⟩
    obtain hv | hv := List.mem_cons.1 hv
    · exact hview v hv.symm
    · exact hviews v hv

/-- Whatever ids are drawn, the same commands under the same circumstances are answered the same and
show no id, and what they leave differs at most in ids on record and in what games are told. -/
theorem Controller.no_disclosure (c : Controller) (script : Script)
    (calls : List (Tenant × Command)) (s : Stage) (ids ids' : Nat → String) :
    let run := c.carryOut (Stage.outside script ids) calls s
    let run' := c.carryOut (Stage.outside script ids') calls s
    run'.1 = run.1 ∧
      (∀ v, .ok (.server v) ∈ run.1 → v.world.instanceId = "" ∧
        ∃ j, Json.parse v.toJson.compact = some j ∧ ¬ j.HasMember "instance_id") ∧
      (∀ t, (run'.2.simulation.store.backend.find t).map (Option.map ServerRecord.redacted) =
        (run.2.simulation.store.backend.find t).map (Option.map ServerRecord.redacted)) ∧
      run'.2.simulation.cluster.redacted = run.2.simulation.cluster.redacted := by
  obtain ⟨hresults, hviews, hafter⟩ :=
    c.alike_carryOut (Stage.alike_outside script ids ids') calls
      (show s.redacted = s.redacted from rfl)
  have hsimulation := congrArg Stage.simulation hafter
  refine ⟨hresults, fun v hv => ⟨hviews v hv, _, Json.parse_compact v.plain_toJson,
    ServerView.not_hasMember_toJson (hviews v hv)⟩, fun t => ?_, ?_⟩
  · rw [← StoreBackend.find_redacted, ← StoreBackend.find_redacted]
    exact congrArg (fun s : Simulation => s.store.backend.find t) hsimulation.symm
  · exact (congrArg Simulation.cluster hsimulation).symm

-- There is something to keep secret: the id that is drawn ends up on record.
example :
    let s : Simulation :=
      ⟨.empty "longhall", .ofBackend (.tables .empty), .ok "203.0.113.7", 7, 0, 0⟩
    let run := Controller.sample.carryOut (Stage.outside (fun _ => []) fun _ => "5ead")
      [(⟨default, "premium"⟩, .create .sample)] ⟨s, 0⟩
    run.2.simulation.store.backend.records default |>.map (·.world.instanceId) = some "5ead" := by
  decide +kernel

end Steading
