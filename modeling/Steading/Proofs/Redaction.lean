import Steading.Proofs.GameArgs
import Steading.Proofs.Records
import Steading.Simulation

/-!
# Redaction

An instance id is written down in two places: with the world on record, and in the arguments of the
game. Redaction blanks both, in what is asked, in what is replied and in everything that is kept.

It makes no difference whether the surroundings are redacted before they answer or afterwards
(`Simulation.answer_redacted`), so how they answer does not depend on what redaction leaves out.
-/

namespace Steading

def ServerRecord.redacted (r : ServerRecord) : ServerRecord :=
  { r with world := r.world.redacted }

namespace Deployment

/-- A deployment without what its game is told. -/
def redacted (d : Deployment) : Deployment :=
  (d.setGameArgs? "").getD d

variable {d d' : Deployment} {args : String}

theorem metadata_redacted (d : Deployment) : d.redacted.metadata = d.metadata := by
  cases h : d.setGameArgs? "" with
  | none => rw [redacted, h, Option.getD_none]
  | some d' => rw [redacted, h, Option.getD_some, metadata_of_setGameArgs? h]

theorem nameOrEmpty_redacted (d : Deployment) :
    d.redacted.metadata.nameOrEmpty = d.metadata.nameOrEmpty := by
  rw [metadata_redacted]

theorem redacted_of_setGameArgs? (h : d.setGameArgs? args = some d') : d'.redacted = d.redacted := by
  obtain ⟨blank, h₁, h₂⟩ := setGameArgs?_again "" h
  rw [redacted, redacted, h₁, h₂, Option.getD_some, Option.getD_some]

theorem setGameArgs?_redacted (d : Deployment) (args : String) :
    d.redacted.setGameArgs? args = d.setGameArgs? args :=
  d.setGameArgs?_getD "" args

/-- Whether a game can be told something does not depend on what it is told. -/
theorem map_redacted_setGameArgs? (d : Deployment) (args : String) :
    (d.setGameArgs? args).map redacted = d.setGameArgs? "" := by
  cases h : d.setGameArgs? args with
  | none =>
    cases hblank : d.setGameArgs? "" with
    | none => rfl
    | some blank =>
      obtain ⟨d'', h', -⟩ := setGameArgs?_again args hblank
      rw [h] at h'
      cases h'
  | some d' =>
    obtain ⟨blank, h₁, h₂⟩ := setGameArgs?_again "" h
    rw [Option.map_some, redacted, h₁, h₂, Option.getD_some]

theorem redacted_scaled (d : Deployment) (replicas : Int32) :
    (d.scaled replicas).redacted = d.redacted.scaled replicas := by
  rw [redacted, redacted, setGameArgs?_scaled]
  cases d.setGameArgs? "" <;> rfl

end Deployment

/-! ## What is asked and replied -/

namespace ClusterCall

def redacted : ClusterCall → ClusterCall
  | createDeployment d => createDeployment d.redacted
  | replaceDeployment d => replaceDeployment d.redacted
  | c => c

def redactReply : (c : ClusterCall) → c.Reply → c.redacted.Reply
  | getDeployment _, d => d.redacted
  | createClaim _, a | getClaim _, a | deleteClaim _, a | clearFinalizers _, a
  | createDeployment _, a | replaceDeployment _, a | deleteDeployment _, a
  | scaleDeployment _ _, a => a

theorem op_redacted (c : ClusterCall) : c.redacted.op = c.op := by
  cases c <;> rfl

theorem kind_redacted (c : ClusterCall) : c.redacted.kind = c.kind := by
  cases c <;> rfl

theorem target_redacted (c : ClusterCall) : c.redacted.target = c.target := by
  cases c with
  | createDeployment d | replaceDeployment d => exact d.nameOrEmpty_redacted
  | _ => rfl

end ClusterCall

namespace StoreCall

def redacted : StoreCall → StoreCall
  | save r => save r.redacted
  | updateWorld t world name w => updateWorld t world name w.redacted
  | c => c

def redactReply : (c : StoreCall) → c.Reply → c.redacted.Reply
  | find _, r => r.map ServerRecord.redacted
  | save _, a | update _, a | updateWorld _ _ _ _, a | delete _, a => a

theorem method_redacted (c : StoreCall) : c.redacted.method = c.method := by
  cases c <;> rfl

end StoreCall

namespace Request

def redacted : Request → Request
  | cluster c => cluster c.redacted
  | store c => store c.redacted
  | r => r

def redactReply : (r : Request) → r.Reply → r.redacted.Reply
  | cluster c, reply => reply.map c.redactReply
  | store c, reply => reply.map c.redactReply
  | freshId, _ => ""
  | address, reply | now, reply | pause _, reply => reply

end Request

/-! ## What is kept -/

namespace SimulatedCluster

def redacted (s : SimulatedCluster) : SimulatedCluster :=
  { s with deployments := fun name => (s.deployments name).map Deployment.redacted }

theorem record_redacted (s : SimulatedCluster) (c : ClusterCall) :
    s.redacted.record c.redacted = (s.record c).redacted := by
  simp only [record, redacted, ClusterCall.op_redacted, ClusterCall.target_redacted]

theorem putDeployment_redacted (s : SimulatedCluster) (name : String) (d : Option Deployment) :
    s.redacted.putDeployment name (d.map Deployment.redacted) =
      (s.putDeployment name d).redacted := by
  rw [putDeployment, redacted, ← map_setAt fun _ => Option.map Deployment.redacted]
  rfl

@[simp]
theorem deployments_redacted (s : SimulatedCluster) (name : String) :
    s.redacted.deployments name = (s.deployments name).map Deployment.redacted :=
  rfl

/-- A call is answered and has its effect whatever the games are told. -/
theorem perform_redacted (s : SimulatedCluster) (c : ClusterCall) :
    s.redacted.perform c.redacted =
      ((s.perform c).1.map c.redactReply, (s.perform c).2.redacted) := by
  have hclaims : s.redacted.claims = s.claims := rfl
  cases c with
  | createClaim c =>
    show s.redacted.perform (.createClaim c) = _
    simp only [perform, hclaims]
    split <;> rfl
  | getClaim name =>
    show s.redacted.perform (.getClaim name) = _
    simp only [perform, hclaims, show s.redacted.lingering = s.lingering from rfl]
    repeat' split
    all_goals rfl
  | deleteClaim name =>
    show s.redacted.perform (.deleteClaim name) = _
    simp only [perform, hclaims]
    repeat' split
    all_goals rfl
  | clearFinalizers name =>
    show s.redacted.perform (.clearFinalizers name) = _
    simp only [perform, hclaims, show s.redacted.terminating = s.terminating from rfl]
    repeat' split
    all_goals rfl
  | createDeployment d =>
    show s.redacted.perform (.createDeployment d.redacted) = _
    simp only [perform, Deployment.nameOrEmpty_redacted, deployments_redacted]
    cases s.deployments d.metadata.nameOrEmpty with
    | none => exact congrArg (Prod.mk _) (s.putDeployment_redacted _ (some d))
    | some old => rfl
  | getDeployment name =>
    show s.redacted.perform (.getDeployment name) = _
    simp only [perform, deployments_redacted]
    cases s.deployments name <;> rfl
  | replaceDeployment d =>
    show s.redacted.perform (.replaceDeployment d.redacted) = _
    simp only [perform, Deployment.nameOrEmpty_redacted, deployments_redacted]
    cases s.deployments d.metadata.nameOrEmpty with
    | none => rfl
    | some old => exact congrArg (Prod.mk _) (s.putDeployment_redacted _ (some d))
  | deleteDeployment name =>
    show s.redacted.perform (.deleteDeployment name) = _
    simp only [perform, deployments_redacted]
    cases s.deployments name with
    | none => rfl
    | some d => exact congrArg (Prod.mk _) (s.putDeployment_redacted _ none)
  | scaleDeployment name replicas =>
    show s.redacted.perform (.scaleDeployment name replicas) = _
    simp only [perform, deployments_redacted]
    cases s.deployments name with
    | none => rfl
    | some d =>
      simp only [Option.map_some, ← Deployment.redacted_scaled]
      exact congrArg (Prod.mk _) (s.putDeployment_redacted _ (some (d.scaled replicas)))

theorem answer_redacted (s : SimulatedCluster) (c : ClusterCall) :
    s.redacted.answer c.redacted =
      ((s.answer c).1.map c.redactReply, (s.answer c).2.redacted) := by
  simp only [answer, record_redacted, ClusterCall.op_redacted, ClusterCall.kind_redacted,
    ClusterCall.target_redacted, show (s.record c).redacted.failing = (s.record c).failing from rfl]
  split
  · rfl
  · exact perform_redacted _ c

end SimulatedCluster

namespace MemoryStore

def redacted (s : MemoryStore) : MemoryStore :=
  ⟨s.rows.map fun row => (row.1, row.2.redacted)⟩

theorem find?_redacted (t : TenantId) :
    ∀ s : MemoryStore, s.redacted.find? t = (s.find? t).map ServerRecord.redacted
  | ⟨[]⟩ => rfl
  | ⟨row :: rows⟩ => by
    have ih := find?_redacted t ⟨rows⟩
    unfold redacted at ih ⊢
    rw [List.map_cons, find?_cons, find?_cons, ih]
    split_ifs <;> rfl

theorem modify_redacted (s : MemoryStore) (t : TenantId) {f g : ServerRecord → ServerRecord}
    (h : ∀ r, (f r).redacted = g r.redacted) :
    s.redacted.modify t g = (s.modify t f).redacted := by
  simp only [modify, redacted, List.map_map]
  refine congrArg mk (List.map_congr_left fun row _ => ?_)
  simp only [Function.comp_apply]
  split <;> simp [h]

theorem erase_redacted (s : MemoryStore) (t : TenantId) :
    s.redacted.erase t = (s.erase t).redacted := by
  simp only [erase, redacted, List.filter_map]
  rfl

theorem answer_redacted (s : MemoryStore) (c : StoreCall) :
    s.redacted.answer c.redacted =
      ((s.answer c).1.map c.redactReply, (s.answer c).2.redacted) := by
  cases c with
  | find t =>
    show s.redacted.answer (.find t) = _
    simp only [answer, find?_redacted]
    rfl
  | save r =>
    show s.redacted.answer (.save r.redacted) = _
    simp only [answer, find?_redacted, show r.redacted.server = r.server from rfl]
    cases s.find? r.server.tenant with
    | none =>
      simp only [redacted, List.map_append]
      rfl
    | some old => rfl
  | update server =>
    show s.redacted.answer (.update server) = _
    simp only [answer, find?_redacted]
    cases s.find? server.tenant with
    | none => rfl
    | some old => exact congrArg (Prod.mk _) (s.modify_redacted _ fun r => rfl)
  | updateWorld t world name w =>
    show s.redacted.answer (.updateWorld t world name w.redacted) = _
    simp only [answer, find?_redacted]
    cases s.find? t with
    | none => rfl
    | some r =>
      simp only [Option.map_some, show r.redacted.world.world = r.world.world from rfl,
        show r.redacted.world.name = r.world.name from rfl]
      split_ifs
      · exact congrArg (Prod.mk _) (s.modify_redacted _ fun r => rfl)
      · rfl
  | delete t =>
    show s.redacted.answer (.delete t) = _
    simp only [answer, find?_redacted, Option.isSome_map, erase_redacted]
    rfl

end MemoryStore

def WorldRow.redacted (r : WorldRow) : WorldRow :=
  { r with instanceId := "" }

theorem WorldRow.read_redacted (r : WorldRow) (ms : List Modifier) :
    r.redacted.read ms = (r.read ms).map WorldDetails.redacted := by
  show _ = WorldDetails.redacted <$> r.read ms
  simp only [read, redacted, map_bind, map_pure]
  rfl

namespace TableStore

def redacted (s : TableStore) : TableStore :=
  { s with worlds := s.worlds.map WorldRow.redacted }

theorem worldRow?_redacted (s : TableStore) (t : TenantId) :
    s.redacted.worldRow? t = (s.worldRow? t).map WorldRow.redacted := by
  rw [worldRow?, redacted, List.find?_map]
  rfl

theorem find_redacted (s : TableStore) (t : TenantId) :
    s.redacted.find t = (s.find t).map (Option.map ServerRecord.redacted) := by
  simp only [find, worldRow?_redacted, show s.redacted.serverRow? t = s.serverRow? t from rfl,
    show s.redacted.modifierRows t = s.modifierRows t from rfl]
  show _ = Option.map ServerRecord.redacted <$> _
  cases s.serverRow? t with
  | none => rfl
  | some server =>
    simp only [map_bind]
    refine bind_congr fun server => ?_
    cases s.worldRow? t with
    | none => rfl
    | some row =>
      simp only [Option.map_some, WorldRow.read_redacted]
      cases row.read [] with
      | error e => rfl
      | ok world => simp only [Except.map, Except.mapError, map_bind, map_pure]; rfl

theorem writeWorld_redacted (s : TableStore) (t : TenantId) (w : WorldDetails) :
    s.redacted.writeWorld t w.redacted = (s.writeWorld t w).redacted := by
  simp only [writeWorld, redacted, List.map_append, List.filter_map]
  rfl

theorem answer_redacted (s : TableStore) (c : StoreCall) :
    s.redacted.answer c.redacted =
      ((s.answer c).1.map c.redactReply, (s.answer c).2.redacted) := by
  have hrow : s.redacted.serverRow? = s.serverRow? := rfl
  cases c with
  | find t => exact congrArg (·, s.redacted) (s.find_redacted t)
  | save r =>
    show s.redacted.answer (.save r.redacted) = _
    simp only [answer, hrow, show r.redacted.server = r.server from rfl]
    split
    · rfl
    · exact congrArg (Prod.mk _) (writeWorld_redacted { s with servers := _ } _ _)
  | update server =>
    show s.redacted.answer (.update server) = _
    simp only [answer, hrow]
    split <;> rfl
  | updateWorld t world name w =>
    show s.redacted.answer (.updateWorld t world name w.redacted) = _
    simp only [answer, worldRow?_redacted]
    cases s.worldRow? t with
    | none => rfl
    | some row =>
      simp only [Option.map_some, show row.redacted.world = row.world from rfl,
        show row.redacted.name = row.name from rfl]
      split_ifs
      · exact congrArg (Prod.mk _) (s.writeWorld_redacted _ _)
      · rfl
  | delete t =>
    show s.redacted.answer (.delete t) = _
    simp only [answer, redacted, List.filter_map]
    rfl

end TableStore

def StoreBackend.redacted : StoreBackend → StoreBackend
  | memory m => memory m.redacted
  | tables s => tables s.redacted

theorem StoreBackend.answer_redacted (b : StoreBackend) (c : StoreCall) :
    b.redacted.answer c.redacted =
      ((b.answer c).1.map c.redactReply, (b.answer c).2.redacted) := by
  cases b with
  | memory m => simp only [redacted, answer, m.answer_redacted]
  | tables s => simp only [redacted, answer, s.answer_redacted]

namespace FaultyStore

def redacted (s : FaultyStore) : FaultyStore :=
  { s with backend := s.backend.redacted }

theorem direct_redacted (s : FaultyStore) (c : StoreCall) :
    s.redacted.direct c.redacted =
      ((s.direct c).1.map c.redactReply, (s.direct c).2.redacted) := by
  simp only [direct, redacted, StoreBackend.answer_redacted]

theorem answer_of_fault {s : FaultyStore} {c : StoreCall} {causes : List String}
    (h : s.faults c.method = some causes) : s.answer c = (.error (.arranged causes), s) := by
  simp only [answer, h]

theorem answer_of_miss {s : FaultyStore} (t : TenantId) (world name : String) (w : WorldDetails)
    (h : s.faults .updateWorld = none) (hmisses : s.missesWorlds = true) :
    s.answer (.updateWorld t world name w) = (.ok false, s) := by
  simp only [answer, StoreCall.method, h, hmisses, ↓reduceIte]

theorem answer_of_no_fault {s : FaultyStore} {c : StoreCall} (h : s.faults c.method = none)
    (hc : ¬ (c.method = .updateWorld ∧ s.missesWorlds = true)) : s.answer c = s.direct c := by
  simp only [answer, h]
  cases c with
  | updateWorld t world name w => exact if_neg fun hmisses => hc ⟨rfl, hmisses⟩
  | _ => rfl

theorem answer_redacted (s : FaultyStore) (c : StoreCall) :
    s.redacted.answer c.redacted =
      ((s.answer c).1.map c.redactReply, (s.answer c).2.redacted) := by
  have hmethod := c.method_redacted
  cases h : s.faults c.method with
  | some causes =>
    rw [answer_of_fault h, answer_of_fault (s := s.redacted) (hmethod ▸ h)]
    rfl
  | none =>
    by_cases hc : c.method = .updateWorld ∧ s.missesWorlds = true
    · cases c with
      | updateWorld t world name w =>
        rw [answer_of_miss t world name w h hc.2]
        exact answer_of_miss (s := s.redacted) t world name w.redacted h hc.2
      | _ => cases hc.1
    · rw [answer_of_no_fault h hc,
        answer_of_no_fault (s := s.redacted) (hmethod ▸ h) (hmethod ▸ hc), direct_redacted]

end FaultyStore

namespace Simulation

/-- The surroundings with ids drawn from a sequence. -/
def drawing (ids : Nat → String) : Outside Simulation where
  answer
    | .freshId, s => (ids s.drawn, { s with drawn := s.drawn + 1 })
    | r, s => s.answer r

theorem drawing_instanceId : drawing instanceId = outside := by
  rw [drawing, outside]
  congr 1
  funext r s
  cases r <;> rfl

def redacted (s : Simulation) : Simulation :=
  { s with cluster := s.cluster.redacted, store := s.store.redacted }

/-- Surroundings that are redacted first answer as they would, redacted. -/
theorem answer_redacted (ids : Nat → String) (r : Request) (s : Simulation) :
    (drawing fun _ => "").answer r.redacted s.redacted =
      (r.redactReply ((drawing ids).answer r s).1, ((drawing ids).answer r s).2.redacted) := by
  cases r with
  | cluster c =>
    show ((drawing fun _ => "").answer (.cluster c.redacted) s.redacted) = _
    have h := s.cluster.answer_redacted c
    simp only [drawing, answer, show s.redacted.cluster = s.cluster.redacted from rfl, h]
    rfl
  | store c =>
    show ((drawing fun _ => "").answer (.store c.redacted) s.redacted) = _
    have h := s.store.answer_redacted c
    simp only [drawing, answer, show s.redacted.store = s.store.redacted from rfl, h]
    rfl
  | address | now | freshId | pause => rfl

end Simulation

end Steading
