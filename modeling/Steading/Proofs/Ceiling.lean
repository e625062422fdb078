import Steading.Proofs.Site

/-!
# Grants and ceilings

A new server is granted no more than its plan allows, and what was granted never changes. But every
patch writes down anew what the plan allows, and the plan may be a lesser one by then. So granted
amounts stay within the recorded limits as long as no patch succeeds under a plan that does not
cover them, and no longer (`Controller.Serves.within_ceiling_iff_covered`).
-/

namespace Steading

theorem clampToCeiling_le (requested : Option UInt32) (ceiling : UInt32) :
    clampToCeiling requested ceiling ≤ ceiling := by
  cases requested with
  | none => exact UInt32.le_refl _
  | some v =>
    rw [clampToCeiling, show min v ceiling = if v ≤ ceiling then v else ceiling from rfl]
    split_ifs with h
    · exact h
    · exact UInt32.le_refl _

theorem WorldDetails.within_of_ofRequest {r : ServerRequest} {e : Entitlements} {id : String}
    {w : WorldDetails} (h : WorldDetails.ofRequest r e id = .ok w) :
    w.cpu ≤ e.cpu ∧ w.memory ≤ e.memoryGi := by
  rw [ofRequest] at h
  split at h
  · obtain rfl := Except.ok.inj h
    exact ⟨clampToCeiling_le _ _, clampToCeiling_le _ _⟩
  · cases h

/-- What was granted exceeds no limit on record. -/
def Server.WithinCeiling (s : Server) : Prop :=
  s.cpu ≤ s.cpuLimit ∧ s.memory ≤ s.memoryLimit

instance (s : Server) : Decidable s.WithinCeiling :=
  inferInstanceAs (Decidable (_ ∧ _))

namespace Event

/-- A server is on record at some point of the event, or is what it comes to. -/
def Tells (e : Event) (server : Server) : Prop :=
  (∃ s ∈ e.exchanges.map (·.state) ++ [e.after], ∃ t, s.holdings.servers t = some server) ∨
    ∃ v, e.result = .ok (.server v) ∧ v.server = server

/-- If the event is a patch that succeeds, the plan it was made under covers what was granted. -/
def Covered (c : Controller) (e : Event) : Prop :=
  ∀ r a old plan, e.command = .patch r → e.result = .ok a →
    e.before.store.find? e.tenant.id = some old →
      c.plans.find? e.tenant.subscription = some plan →
        old.server.cpu ≤ plan.cpu ∧ old.server.memory ≤ plan.memoryGi

end Event

namespace Holdings

def WithinCeilings (s : Holdings) : Prop :=
  ∀ t server, s.servers t = some server → server.WithinCeiling

variable {s s' : Holdings}

theorem WithinCeilings.empty : empty.WithinCeilings :=
  fun _ _ h => by cases h

theorem WithinCeilings.of_record (h : s.WithinCeilings) {t : TenantId} {r : ServerRecord}
    (hr : s.records t = some r) : r.server.WithinCeiling :=
  h t _ (by rw [servers, hr, Option.map_some])

theorem WithinCeilings.change (h : s.WithinCeilings) {t : TenantId} {r : Option ServerRecord}
    (hrecords : s'.records = setAt s.records t r)
    (hr : ∀ r', r = some r' → r'.server.WithinCeiling) : s'.WithinCeilings := by
  intro t' server hserver
  rw [servers, hrecords] at hserver
  obtain ⟨r', hr', rfl⟩ := Option.map_eq_some_iff.1 hserver
  exact forall_setAt (p := fun _ r => r.server.WithinCeiling) (fun _ _ => h.of_record) hr t' r' hr'

theorem WithinCeilings.of_records (h : s.WithinCeilings) (hrecords : s'.records = s.records) :
    s'.WithinCeilings := by
  intro t server hserver
  rw [servers_eq hrecords] at hserver
  exact h t server hserver

/-- Only a patch can put a record beyond its ceiling, and only by lowering the ceiling. -/
theorem WithinCeilings.outcome {c : Controller} {fault : ClusterError → Prop} {t : Tenant}
    {command : Command} {result : Except Failure Answer} (h : s.WithinCeilings)
    (ho : c.Outcome fault t s command result s')
    (hcovered : ∀ r a old plan, command = .patch r → result = .ok a → s.records t.id = some old →
      c.plans.find? t.subscription = some plan →
        old.server.cpu ≤ plan.cpu ∧ old.server.memory ≤ plan.memoryGi) :
    s'.WithinCeilings ∧ ∀ v, result = .ok (.server v) → v.server.WithinCeiling := by
  cases ho with
  | created free plan world cleared added =>
    have hw := WorldDetails.within_of_ofRequest world
    obtain ⟨-, -, rfl⟩ := added
    refine ⟨h.change (congrArg (setAt · _ _) cleared.records) fun r hr => ?_, fun v hv => ?_⟩
    · rw [← Option.some.inj hr]
      exact hw
    · cases hv
      exact hw
  | notCreated h' =>
    rcases h' with rfl | ⟨-, h'⟩
    · exact ⟨h, fun _ hv => by cases hv⟩
    · exact ⟨h.of_records h'.records, fun _ hv => by cases hv⟩
  | patched found plan world launched =>
    have hold := hcovered _ _ _ _ rfl rfl found plan
    refine ⟨h.change rfl fun r hr => ?_, fun v hv => ?_⟩
    · rw [← Option.some.inj hr]
      exact hold
    · cases hv
      exact hold
  | notPatched => exact ⟨h, fun _ hv => by cases hv⟩
  | scaled found target launched =>
    have hold := h.of_record found
    refine ⟨h.change rfl fun r hr => ?_, fun v hv => ?_⟩
    · rw [← Option.some.inj hr]
      exact hold
    · cases hv
      exact hold
  | notScaled h' =>
    rcases h' with rfl | ⟨_, _, _, _, rfl⟩ <;> exact ⟨h, fun _ hv => by cases hv⟩
  | deleted h' =>
    exact ⟨h.change (congrArg (setAt · _ _) h'.records) (fun r hr => by cases hr),
      fun _ hv => by cases hv⟩
  | notDeleted h' => exact ⟨h.of_records h'.records, fun _ hv => by cases hv⟩
  | inspected found =>
    refine ⟨h, fun v hv => ?_⟩
    cases hv
    exact h.of_record found
  | notInspected => exact ⟨h, fun _ hv => by cases hv⟩

end Holdings

namespace Controller

variable {c : Controller} {fault : ClusterError → Prop} {ns : String} {es : List Event} {s : Site}

theorem Outcome.covered {t : Tenant} {s s' : Holdings} {command : Command}
    {result : Except Failure Answer} (ho : c.Outcome fault t s command result s')
    (h' : s'.WithinCeilings) {r : ServerRequest} {a : Answer} {old : ServerRecord}
    {plan : Entitlements} (hcommand : command = .patch r) (hresult : result = .ok a)
    (hold : s.records t.id = some old) (hplan : c.plans.find? t.subscription = some plan) :
    old.server.cpu ≤ plan.cpu ∧ old.server.memory ≤ plan.memoryGi := by
  subst hcommand hresult
  cases ho with
  | patched found plan' world launched =>
    obtain rfl := Option.some.inj (found.symm.trans hold)
    obtain rfl := Option.some.inj (plan'.symm.trans hplan)
    exact h'.of_record (setAt_same _ _ _)

/-- If the servers on record keep to their ceilings before a command and after it, so does every
server that the event tells of. -/
theorem tells_within {e : Event}
    (horderly : ∀ x ∈ e.exchanges,
      c.Orderly fault e.tenant.id e.before.holdings x.request x.state.holdings)
    (hbefore : e.before.holdings.WithinCeilings) (hafter : e.after.holdings.WithinCeilings)
    (hview : ∀ v, e.result = .ok (.server v) → v.server.WithinCeiling) {server : Server}
    (h : e.Tells server) : server.WithinCeiling := by
  rcases h with ⟨s, hs, t, hserver⟩ | ⟨v, hv, rfl⟩
  · rcases List.mem_append.1 hs with hs | hs
    · obtain ⟨x, hx, rfl⟩ := List.mem_map.1 hs
      rw [(horderly x hx).1] at hserver
      exact hbefore t server hserver
    · obtain rfl := List.mem_singleton.1 hs
      exact hafter t server hserver
  · exact hview v hv

theorem Serves.withinCeilings (h : c.Serves fault (.empty ns) es s)
    (hcovered : ∀ e ∈ es, e.Covered c) :
    s.holdings.WithinCeilings ∧ ∀ e ∈ es, ∀ server, e.Tells server → server.WithinCeiling := by
  induction h with
  | start => exact ⟨Holdings.WithinCeilings.empty, by simp⟩
  | next t command h run ih =>
    obtain ⟨hes, he⟩ := List.forall_mem_append.1 hcovered
    obtain ⟨hs, hwithin⟩ := ih hes
    obtain ⟨-, horderly, houtcome⟩ := outcome_of_runs_site h.keyed run
    obtain ⟨hs', hview⟩ := hs.outcome houtcome (he _ (List.mem_singleton_self _))
    refine ⟨hs', List.forall_mem_append.2 ⟨hwithin, ?_⟩⟩
    rw [List.forall_mem_singleton]
    exact fun server => tells_within horderly hs hs' hview

theorem Serves.within_ceiling_iff_covered (h : c.Serves fault (.empty ns) es s) :
    (∀ e ∈ es, ∀ server, e.Tells server → server.WithinCeiling) ↔ ∀ e ∈ es, e.Covered c := by
  refine ⟨fun hwithin e he r a old plan => ?_, fun hcovered => (h.withinCeilings hcovered).2⟩
  have hafter : e.after.holdings.WithinCeilings := fun t server hserver =>
    hwithin e he server (.inl ⟨e.after, by simp, t, hserver⟩)
  exact (h.outcome_of_mem he).covered hafter

/-- A server is created and patched under the same plan. -/
theorem Serves.within_ceiling_of_same_plan :
    ∃ es s, sample.Serves (fun e => e.isNotFound = false) (.empty "longhall") es s ∧
      es.map (·.result.isOk) = [true, true] ∧
      ∀ e ∈ es, ∀ server, e.Tells server → server.WithinCeiling := by
  let o := Site.outside (fun _ => false) "203.0.113.7" 0 "5ead"
  let t : Tenant := ⟨default, "premium"⟩
  let first := Event.ofOutside o sample t (.create .sample) (.empty "longhall")
  let second := Event.ofOutside o sample t (.patch .sample) first.after
  have created : sample.Serves (fun e => e.isNotFound = false) (.empty "longhall") _ _ :=
    Serves.start.next_outside (fun _ _ => rfl) (fun _ => false) "203.0.113.7" 0 "5ead" t
      (.create .sample)
  have patched := created.next_outside (fun _ _ => rfl) (fun _ => false) "203.0.113.7" 0 "5ead" t
    (.patch .sample)
  have hgranted : (first.after.store.find? t.id).all
      (fun r => r.server.cpu ≤ 8 && r.server.memory ≤ 16) = true := by decide +kernel
  have hcovered : second.Covered sample := by
    intro r a old plan _ _ hold hplan
    rw [show first.after.store.find? t.id = some old from hold, Option.all_some] at hgranted
    obtain rfl : (⟨8, 16, 10, 5, true⟩ : Entitlements) = plan := Option.some.inj hplan
    simpa using hgranted
  refine ⟨_, _, patched, by decide +kernel, patched.within_ceiling_iff_covered.2 ?_⟩
  rw [List.nil_append, List.singleton_append, List.forall_mem_cons, List.forall_mem_singleton]
  refine ⟨fun r a old plan hcommand => ?_, hcovered⟩
  cases hcommand

/-- A server is created under a plan and patched under a lesser one, and nothing fails. -/
theorem exists_beyond_ceiling :
    ¬ ∀ (c : Controller) (fault : ClusterError → Prop) (ns : String) (es : List Event) (s : Site),
      c.Serves fault (.empty ns) es s →
        ∀ e ∈ es, ∀ server, e.Tells server → server.WithinCeiling := by
  intro h
  let o := Site.outside (fun _ => false) "203.0.113.7" 0 "5ead"
  let first := Event.ofOutside o sample ⟨default, "premium"⟩ (.create .sample) (.empty "longhall")
  let second := Event.ofOutside o sample ⟨default, "basic"⟩ (.patch .sample) first.after
  have created : sample.Serves (fun e => e.isNotFound = false) (.empty "longhall") _ _ :=
    Serves.start.next_outside (fun _ _ => rfl) (fun _ => false) "203.0.113.7" 0 "5ead"
      ⟨default, "premium"⟩ (.create .sample)
  have patched := created.next_outside (fun _ _ => rfl) (fun _ => false) "203.0.113.7" 0 "5ead"
    ⟨default, "basic"⟩ (.patch .sample)
  obtain ⟨server, hserver⟩ := Option.isSome_iff_exists.1
    (show (second.after.holdings.servers default).isSome = true by decide +kernel)
  have hbeyond : (second.after.holdings.servers default).all
      (fun server => decide server.WithinCeiling) = false := by decide +kernel
  rw [hserver, Option.all_some, decide_eq_false_iff_not] at hbeyond
  exact hbeyond (h _ _ _ _ _ patched second (List.mem_append_right _ (List.mem_singleton_self _))
    server (.inl ⟨second.after, List.mem_append_right _ (List.mem_singleton_self _), default,
      hserver⟩))

end Controller

end Steading
