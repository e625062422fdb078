import Steading.Activity
import Steading.Cluster.Simulated
import Steading.Lock
import Steading.Store.Faulty

/-!
# Simulated surroundings

A cluster in memory, a store that can be made to fail, an address that is known or cannot be found,
and a clock that moves only while a program pauses. Several operations can be run side by side:
each goes on until it pauses or has to wait for its tenant.
-/

namespace Steading

/-- An id of 32 hexadecimal digits for each number, in the form of random ones. -/
def instanceId (n : Nat) : String :=
  let digits := Nat.toDigits 16 n
  "5ead1e9f4c0b4e2d8f6a" ++ String.ofList (List.replicate (12 - digits.length) '0' ++ digits)

structure Simulation where
  cluster : SimulatedCluster
  store : FaultyStore
  address : Except ClusterError String
  /-- The time of day, which stands still. -/
  time : Int64
  /-- How long has been paused so far, in nanoseconds. -/
  elapsed : Nat
  /-- How many instance ids have been drawn. -/
  drawn : Nat

namespace Simulation

def answer : (r : Request) → Simulation → r.Reply × Simulation
  | .cluster c, s => ((s.cluster.answer c).1, { s with cluster := (s.cluster.answer c).2 })
  | .address, s => (s.address, s)
  | .store c, s => ((s.store.answer c).1, { s with store := (s.store.answer c).2 })
  | .now, s => (s.time, s)
  | .freshId, s => (instanceId s.drawn, { s with drawn := s.drawn + 1 })
  | .pause d, s => ((), { s with elapsed := s.elapsed + d })

def outside : Outside Simulation :=
  ⟨answer⟩

/-- Runs a program to its end. -/
def run {α : Type} (s : Simulation) (p : Program α) : α × Simulation :=
  p.run outside s

end Simulation

/-- An activity that has come to its end, to a pause, or to where it has to wait for access. -/
inductive Halted (α : Type)
  | done (a : α)
  | paused (nanos : Nat) (rest : Activity α)
  | waits (rest : Activity α)

/-- A command that is carried out side by side with others. -/
inductive Task
  /-- Goes on once the clock has come to a point. -/
  | due (time : Nat) (rest : Activity (Except Failure Answer))
  | finished (result : Except Failure Answer)

def Task.ofCommand (c : Controller) (t : Tenant) (command : Command) : Task :=
  .due 0 (command.activity c t)

def Task.result? : Task → Option (Except Failure Answer)
  | .finished r => some r
  | .due _ _ => none

/-- The state that tasks side by side have in common; a task goes by its place in their list. -/
structure Schedule where
  simulation : Simulation
  locks : TenantLocks Nat
  /-- What has been asked and by which task, the latest first. -/
  asked : List (Nat × Request)

namespace Schedule

def start (s : Simulation) : Schedule :=
  ⟨s, .empty, []⟩

/-- A request by a task, to which the simulation has come from another state. -/
def note (s : Schedule) (place : Nat) (r : Request) (simulation : Simulation) : Schedule :=
  { s with simulation, asked := (place, r) :: s.asked }

/-- Goes on with the activity of a task as far as possible; an empty pause does not stop it. Whoever
gives access back hands it to the next who waits for it. -/
def go {α : Type} (place : Nat) : Activity α → Schedule → Halted α × Schedule
  | .done a, s => (.done a, s)
  | .ask (.pause d) next, s =>
    let s := s.note place (.pause d) s.simulation
    if d = 0 then go place (next ()) s else (.paused d (next ()), s)
  | .ask r next, s =>
    go place (next (s.simulation.answer r).1) (s.note place r (s.simulation.answer r).2)
  | .enter t next, s => go place next { s with locks := s.locks.acquire place t }
  | .wait next, s => if s.locks.holds place then go place next s else (.waits (.wait next), s)
  | .unlock next, s => go place next { s with locks := (s.locks.unlock place).grantAll }
  | .leave next, s => go place next { s with locks := s.locks.leave place }

/-- Lets a task go on if its time has come. -/
def advance (s : Schedule) (place : Nat) : Task → Task × Schedule
  | .finished result => (.finished result, s)
  | .due time rest =>
    if s.simulation.elapsed < time then (.due time rest, s)
    else
      match s.go place rest with
      | (.done result, s) => (.finished result, s)
      | (.paused d rest, s) => (.due (s.simulation.elapsed + d) rest, s)
      | (.waits rest, s) => (.due time rest, s)

/-- Lets the tasks from a place on go on in turn. -/
def round (s : Schedule) (place : Nat) : List Task → List Task × Schedule
  | [] => ([], s)
  | t :: ts =>
    let (t, s) := s.advance place t
    let (ts, s) := s.round (place + 1) ts
    (t :: ts, s)

/-- The next point of time at which a task goes on. -/
def nextTime (s : Schedule) (ts : List Task) : Option Nat :=
  let times := ts.filterMap fun
    | .due time _ => if s.simulation.elapsed < time then some time else none
    | .finished _ => none
  times.min?

/-- Rounds until all tasks are finished, with the clock moved on between two of them. -/
def rounds (s : Schedule) : Nat → List Task → List Task × Schedule
  | 0, ts => (ts, s)
  | fuel + 1, ts =>
    let (ts, s) := s.round 0 ts
    match s.nextTime ts with
    | none => (ts, s)
    | some time => { s with simulation := { s.simulation with elapsed := time } }.rounds fuel ts

/-- The most rounds that tasks side by side may take. -/
def limit : Nat :=
  10000000

end Schedule

/-- Runs tasks side by side; one that does not come to an end has no result. -/
def Simulation.runAll (s : Simulation) (ts : List Task) :
    List (Option (Except Failure Answer)) × Simulation :=
  let (ts, s) := (Schedule.start s).rounds Schedule.limit ts
  (ts.map Task.result?, s.simulation)

end Steading
