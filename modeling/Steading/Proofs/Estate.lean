import Steading.Proofs.Requests
import Steading.Proofs.Tables
import Steading.Proofs.Writes
import Steading.Store.Faulty

/-!
# Commands against either store

A simulated cluster and a store, in memory or in tables, and tenants' commands carried out against
them one after the other (`Controller.Conducts`). Any call to the cluster may fail.

A store in tables can be read as long as nothing is written into it that cannot be read again
(`StoreBackend.Keeps.answer`), and commands write nothing of that kind. So whichever store it is, a
command goes as it would with the records themselves (`Estate.runs_holdings`).
-/

namespace Steading

namespace StoreBackend

/-- A store of either kind in which nothing has been stored. -/
inductive IsEmpty : StoreBackend → Prop
  | memory : IsEmpty (.memory .empty)
  | tables : IsEmpty (.tables .empty)

def find (b : StoreBackend) (t : TenantId) : Except StoreError (Option ServerRecord) :=
  (b.answer (.find t)).1

/-- What is found by tenant; what cannot be read is not found. -/
def records (b : StoreBackend) : Records :=
  fun t => (b.find t).toOption.join

/-- All that is in the store can be read. -/
def Keeps : StoreBackend → Prop
  | memory _ => True
  | tables s => s.Keeps (tables s).records

variable {b : StoreBackend}

theorem records_tables {s : TableStore} {f : Records} (h : s.Keeps f) :
    (tables s).records = f := by
  funext t
  show (s.find t).toOption.join = f t
  rw [h.find]
  rfl

theorem keeps_tables {s : TableStore} {f : Records} (h : s.Keeps f) : (tables s).Keeps := by
  rw [Keeps, records_tables h]
  exact h

theorem IsEmpty.keeps (h : b.IsEmpty) : b.Keeps := by
  cases h with
  | memory => trivial
  | tables => exact keeps_tables .empty

theorem IsEmpty.records_eq (h : b.IsEmpty) : b.records = .empty := by
  cases h with
  | memory => rfl
  | tables => exact records_tables .empty

theorem Keeps.find_eq (h : b.Keeps) (t : TenantId) : b.find t = .ok (b.records t) := by
  cases b with
  | memory m => rfl
  | tables s => exact TableStore.Keeps.find h t

/-- Either store answers as the records do and keeps what becomes of them. -/
theorem Keeps.answer (h : b.Keeps) {c : StoreCall} (hc : c.IsCanonical) :
    (b.answer c).1.toOption = (b.records.answer c).1 ∧
      (b.answer c).2.records = (b.records.answer c).2 ∧ (b.answer c).2.Keeps := by
  cases b with
  | memory m =>
    have hanswer := m.records_answer c
    exact ⟨congrArg Prod.fst hanswer, congrArg Prod.snd hanswer, trivial⟩
  | tables s =>
    obtain ⟨hreply, hkeeps⟩ := TableStore.Keeps.answer h hc
    exact ⟨hreply, records_tables hkeeps, keeps_tables hkeeps⟩

end StoreBackend

/-- The modifiers of the world are written as they would be read. -/
def WorldDetails.IsCanonical (w : WorldDetails) : Prop :=
  ∀ m ∈ w.modifiers, m.IsCanonical

theorem WorldDetails.Sound.isCanonical {w : WorldDetails} (h : w.Sound) : w.IsCanonical :=
  fun m hm => Modifier.isCanonical_of_allowed (h.values m hm)

theorem StoreCall.isCanonical_iff {c : StoreCall} :
    c.IsCanonical ↔ c.Writes WorldDetails.IsCanonical := by
  cases c <;> exact Iff.rfl

structure Estate where
  cluster : SimulatedCluster
  store : StoreBackend

namespace Estate

def holdings (s : Estate) : Holdings :=
  s.cluster.holdings s.store.records

variable {fault : ClusterError → Prop} {ids : String → Prop}

/-- Any call to the cluster may fail with one of the faults, and is recorded even so. The store does
what it is asked, the address may be anything or not be found, and a fresh id is one of the ids. -/
def habit (fault : ClusterError → Prop) (ids : String → Prop) : Habit Estate
  | .cluster c, s, reply, s' =>
    s'.store = s.store ∧
      (reply = ((s.cluster.record c).perform c).1 ∧
          s'.cluster = ((s.cluster.record c).perform c).2 ∨
        ∃ e, fault e ∧ reply = .error e ∧ s'.cluster = s.cluster.record c)
  | .store c, s, reply, s' =>
    s'.cluster = s.cluster ∧ reply = (s.store.answer c).1 ∧ s'.store = (s.store.answer c).2
  | .freshId, s, id, s' => ids id ∧ s' = s
  | .address, s, _, s' | .now, s, _, s' | .pause _, s, _, s' => s' = s

theorem habit_holdings (r : Request) (s : Estate) (reply : r.Reply) (s' : Estate)
    (hr : r.Writes WorldDetails.IsCanonical) (hs : s.store.Keeps)
    (h : habit fault ids r s reply s') :
    Holdings.habit fault r s.holdings reply s'.holdings ∧ s'.store.Keeps := by
  cases r with
  | cluster c =>
    obtain ⟨hstore, hcluster⟩ := h
    rw [holdings, holdings, hstore]
    refine ⟨?_, hs⟩
    obtain ⟨rfl, hcluster⟩ | ⟨e, he, rfl, hcluster⟩ := hcluster <;> rw [hcluster]
    · exact SimulatedCluster.habit_perform _ _ _ _
    · exact ⟨.inl he, rfl⟩
  | store c =>
    obtain ⟨hcluster, rfl, hstore⟩ := h
    obtain ⟨hreply, hrecords, hkeeps⟩ := hs.answer (StoreCall.isCanonical_iff.2 hr)
    rw [holdings, holdings, hcluster, hstore, hrecords]
    exact ⟨⟨hreply, rfl⟩, hkeeps⟩
  | freshId => rw [h.2]; exact ⟨rfl, hs⟩
  | address | now | pause => rw [show s' = s from h]; exact ⟨rfl, hs⟩

theorem runs_holdings {c : Controller} {t : Tenant} {command : Command} {s s' : Estate}
    {es : List (Exchange Estate)} {result : Except Failure Answer} (hs : s.store.Keeps)
    (run : (command.program c t).Runs (habit fault ids) s es result s') :
    (command.program c t).Runs (Holdings.habit fault) s.holdings (es.map (Exchange.map holdings))
        result s'.holdings ∧
      s'.store.Keeps :=
  run.map_of habit_holdings (Controller.writes_of_runs
    (fun _ hw => (WorldDetails.sound_of_ofRequest hw).isCanonical) run) hs

end Estate

/-- If every world on record is as `p` says, and a world that is written is, so is every world that
is on record then. -/
theorem Records.worlds_answer {p : WorldDetails → Prop} {f : Records} {c : StoreCall}
    (hf : ∀ t r, f t = some r → p r.world) (hc : c.Writes p) :
    ∀ t r, (f.answer c).2 t = some r → p r.world := by
  cases c with
  | find t => exact hf
  | save new =>
    simp only [answer]
    split
    · exact hf
    · exact forall_setAt hf fun r hr => by rw [← Option.some.inj hr]; exact hc
  | update server =>
    simp only [answer]
    split
    · exact hf
    · rename_i old hold
      exact forall_setAt hf fun r hr => by rw [← Option.some.inj hr]; exact hf _ old hold
  | updateWorld t world name details =>
    simp only [answer]
    repeat' split
    · exact forall_setAt hf fun r hr => by rw [← Option.some.inj hr]; exact hc
    · exact hf
    · exact hf
  | delete t => exact forall_setAt hf fun r hr => by cases hr

theorem Holdings.worlds_of_runs {fault : ClusterError → Prop} {p : WorldDetails → Prop} {α : Type}
    {x : Program α} {s s' : Holdings} {es : List (Exchange Holdings)} {a : α}
    (run : x.Runs (Holdings.habit fault) s es a s') (hes : ∀ e ∈ es, e.request.Writes p)
    (hs : ∀ t r, s.records t = some r → p r.world) :
    ∀ t r, s'.records t = some r → p r.world := by
  refine run.invariant_of (I := fun s => ∀ t r, s.records t = some r → p r.world) ?_ hes hs
  intro r s reply s' hr h hs
  cases r with
  | cluster c =>
    have hbut : s.SameBut (fun _ _ => True) s' := sameBut_habit (r := .cluster c) trivial h
    rw [hbut.records]
    exact hs
  | store c =>
    rw [h.2]
    exact Records.worlds_answer hs hr
  | address | now | freshId | pause => exact (show s' = s from h) ▸ hs

/-- A command and what came of it. -/
structure Deed where
  tenant : Tenant
  command : Command
  result : Except Failure Answer

/-- With these deeds, commands one after the other may lead from an estate to another, whatever of
the cluster fails. No id that is drawn is empty. -/
inductive Controller.Conducts (c : Controller) (s : Estate) : List Deed → Estate → Prop
  | start : c.Conducts s [] s
  | next {ds : List Deed} {s₁ s₂ : Estate} (t : Tenant) (command : Command)
      {xs : List (Exchange Estate)} {result : Except Failure Answer} (h : c.Conducts s ds s₁)
      (run : (command.program c t).Runs (Estate.habit (fun _ => True) (· ≠ "")) s₁ xs result s₂) :
      c.Conducts s (ds ++ [⟨t, command, result⟩]) s₂

end Steading
