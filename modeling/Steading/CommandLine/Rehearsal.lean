import Steading.CommandLine.Report
import Steading.Ingress
import Steading.Simulation

/-!
# Rehearsals

A whole run with nothing left open: the cluster's replies are prepared, the time stands still, and
ids are drawn in their order. What was sent to the cluster and what became of the records can be
looked at afterwards.
-/

namespace Steading

namespace CommandLine

/-- What a session deals with while its operation runs. -/
structure Rehearsal where
  cluster : HttpCluster
  script : HttpScript
  store : TableStore
  address : Except ClusterError String
  time : Int64
  /-- How many instance ids have been drawn. -/
  drawn : Nat

namespace Rehearsal

def answer : (r : Request) → Rehearsal → r.Reply × Rehearsal
  | .cluster c, s =>
    ((s.cluster.answer c s.script).1, { s with script := (s.cluster.answer c s.script).2 })
  | .address, s => (s.address, s)
  | .store c, s => ((s.store.answer c).1, { s with store := (s.store.answer c).2 })
  | .now, s => (s.time, s)
  | .freshId, s => (instanceId s.drawn, { s with drawn := s.drawn + 1 })
  | .pause _, s => ((), s)

def outside : Outside Rehearsal :=
  ⟨answer⟩

/-- A session about to run. -/
def ofSession (s : Session) (replies : List HttpReply) (reply : IngressReply) (time : Int64) :
    Rehearsal where
  cluster := s.cluster
  script := ⟨replies, []⟩
  store := s.store
  address := match s.address with
    | .fixed ip => .ok ip
    | .service url => ingressAddress url reply
  time := time
  drawn := 0

def run (r : Rehearsal) (s : Session) : Except Failure Answer × Rehearsal :=
  s.program.run outside r

end Rehearsal

/-- What a run comes to: what it prints and, if its operation began, how that ended. -/
structure Outcome where
  report : Report
  rehearsal : Option Rehearsal

def rehearse {m : Type → Type} [Monad m] (s : Surroundings m) (replies : List HttpReply)
    (reply : IngressReply) (time : Int64) (words : List String) : m Outcome := do
  match Invocation.ofArguments s.env words with
  | .error halt => return ⟨.ofHalt s.env halt, none⟩
  | .ok i =>
    match ← (i.start s).run with
    | .error e => return ⟨.ofStartError e, none⟩
    | .ok session =>
      let (result, r) := (Rehearsal.ofSession session replies reply time).run session
      return ⟨.ofResult i.output result, some r⟩

end CommandLine

end Steading
