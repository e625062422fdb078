import Mathlib.Data.List.TakeWhile
import Steading.Cluster.Http
import Steading.Proofs.Confinement

/-!
# Requests over HTTP

A call of a tenant's own goes out as at most one request, to a path of the tenant's
(`ClusterCall.Own.staysWith`): in the names of tenants and of namespaces there is nothing that would
end a path. The reply to a request is the one that stands at its place in the script
(`HttpScript.LeadsTo.mem_zip`).
-/

namespace Steading

/-! ## Paths -/

namespace HttpRequest

/-- What is asked for, without the query. -/
def path (r : HttpRequest) : String :=
  String.ofList (r.uri.toList.takeWhile (· != '?'))

/-- The object that is sent has this name and this namespace in its metadata. -/
def Names (name ns : String) (r : HttpRequest) : Prop :=
  ∃ type body metadata, r.content = some (type, body) ∧
    body.member? "metadata" = some metadata ∧ metadata.member? "name" = some (.str name) ∧
    metadata.member? "namespace" = some (.str ns)

/-- Below the namespace, and about the tenant's claim or deployment: what is posted is one of them,
and all else is asked of one of them or of the scale of the deployment. -/
inductive StaysWith (ns : String) (t : TenantId) (r : HttpRequest) : Prop
  | creates (kind : Kind) (hmethod : r.method = .post) (hpath : r.path = kind.path ns)
      (hbody : r.Names (t.objectName kind) ns)
  | touches (kind : Kind) (hmethod : r.method ≠ .post)
      (hpath : r.path = kind.objectPath ns (t.objectName kind))
  | scales (hmethod : r.method ≠ .post)
      (hpath : r.path = Kind.deployment.objectPath ns t.deploymentName ++ "/scale")

end HttpRequest

namespace Target

/-- Nothing in a text is taken for the start of a query or of what is not sent. -/
def IsBare (s : String) : Prop :=
  '?' ∉ s.toList ∧ '#' ∉ s.toList

instance (s : String) : Decidable (IsBare s) :=
  inferInstanceAs (Decidable (_ ∧ _))

variable {s s' ns : String}

theorem IsBare.append (h : IsBare s) (h' : IsBare s') : IsBare (s ++ s') := by
  simp only [IsBare, String.toList_append, List.mem_append, not_or]
  exact ⟨⟨h.1, h'.1⟩, h.2, h'.2⟩

theorem isBare_of_isLabel (h : isLabel s.toList = true) : IsBare s := by
  rw [isLabel, Bool.and_eq_true, Bool.and_eq_true, List.all_eq_true] at h
  have hall := h.1.1
  exact ⟨fun hc => absurd (hall _ hc) (by decide), fun hc => absurd (hall _ hc) (by decide)⟩

theorem isBare_path (hns : IsBare ns) (kind : Kind) : IsBare (kind.path ns) := by
  cases kind
  · exact (IsBare.append (by decide) hns).append (by decide)
  · exact (IsBare.append (by decide) hns).append (by decide)

theorem isBare_objectName (t : TenantId) (kind : Kind) : IsBare (t.objectName kind) := by
  have ht : IsBare t.text := isBare_of_isLabel t.label
  cases kind
  · exact IsBare.append (by decide) ht
  · exact (IsBare.append (by decide) ht).append (by decide)

theorem isBare_objectPath (hns : IsBare ns) (t : TenantId) (kind : Kind) :
    IsBare (kind.objectPath ns (t.objectName kind)) :=
  ((isBare_path hns kind).append (by decide)).append (isBare_objectName t kind)

/-- A target that nothing is cut off from is sent as it is. -/
theorem eq_of_ofText (hs : '#' ∉ s.toList) (h : ofText s = .ok s') : s' = s := by
  have hall : s.toList.takeWhile (· != '#') = s.toList := by
    refine List.takeWhile_eq_self_iff.2 fun c hc => bne_iff_ne.2 ?_
    rintro rfl
    exact hs hc
  simp only [ofText, hall] at h
  split_ifs at h
  rw [← Except.ok.inj h, String.ofList_toList]

end Target

namespace HttpRequest

variable {r : HttpRequest} {p : String}

theorem path_of_uri (hp : Target.IsBare p) (h : r.uri = p ∨ r.uri = p ++ "?") : r.path = p := by
  have hstop : ∀ c ∈ p.toList, (c != '?') = true := by
    intro c hc
    rw [bne_iff_ne]
    rintro rfl
    exact hp.1 hc
  have htake : r.uri.toList.takeWhile (· != '?') = p.toList := by
    rcases h with h | h
    · rw [h, List.takeWhile_eq_self_iff.2 hstop]
    · rw [h, String.toList_append, List.takeWhile_append_of_pos hstop]
      simp
  rw [path, htake, String.ofList_toList]

end HttpRequest

/-! ## Calls -/

namespace ClusterCall

variable {ns : String} {t : TenantId} {c : ClusterCall}

/-- Where the request of a call goes. -/
def path (ns name : String) (c : ClusterCall) : String :=
  match c with
  | createClaim _ | createDeployment _ => c.kind.path ns
  | scaleDeployment _ _ => c.kind.objectPath ns name ++ "/scale"
  | _ => c.kind.objectPath ns name

theorem uri_request (ns name : String) (c : ClusterCall) :
    (c.request ns name).uri = c.path ns name ∨ (c.request ns name).uri = c.path ns name ++ "?" := by
  cases c with
  | getClaim | getDeployment => exact .inl rfl
  | _ => exact .inr rfl

theorem isBare_path (hns : Target.IsBare ns) (t : TenantId) (c : ClusterCall) :
    Target.IsBare (c.path ns (t.objectName c.kind)) := by
  have hobject := Target.isBare_objectPath hns t c.kind
  cases c with
  | createClaim | createDeployment => exact Target.isBare_path hns _
  | scaleDeployment => exact hobject.append (by decide)
  | _ => exact hobject

theorem path_request (hns : Target.IsBare ns) (t : TenantId) (c : ClusterCall) :
    (c.request ns (t.objectName c.kind)).path = c.path ns (t.objectName c.kind) :=
  HttpRequest.path_of_uri (c.isBare_path hns t) (c.uri_request ns _)

/-- The call goes by the name that the tenant's object of the kind has. -/
theorem Own.target?_eq (h : c.Own ns t (·.name = some t.deploymentName)) :
    c.target? = some (t.objectName c.kind) := by
  cases c with
  | createClaim c =>
    obtain ⟨m, -, rfl⟩ := h
    rfl
  | createDeployment d =>
    obtain ⟨m, w, -, rfl⟩ := h
    rfl
  | replaceDeployment d => exact h
  | _ => exact congrArg some h

theorem Own.staysWith (h : c.Own ns t (·.name = some t.deploymentName)) (hns : Target.IsBare ns) :
    (c.request ns (t.objectName c.kind)).StaysWith ns t := by
  have hpath := path_request hns t c
  cases c with
  | createClaim c =>
    obtain ⟨m, rfl, rfl⟩ := h
    exact .creates .claim rfl hpath ⟨_, _, _, rfl, rfl, rfl, rfl⟩
  | createDeployment d =>
    obtain ⟨m, w, rfl, rfl⟩ := h
    exact .creates .deployment rfl hpath ⟨_, _, _, rfl, rfl, rfl, rfl⟩
  | getClaim | deleteClaim | clearFinalizers => exact .touches .claim (by rintro ⟨⟩) hpath
  | getDeployment | replaceDeployment | deleteDeployment =>
    exact .touches .deployment (by rintro ⟨⟩) hpath
  | scaleDeployment => exact .scales (by rintro ⟨⟩) hpath

end ClusterCall

/-- A call of a tenant's own is not sent at all, or sent as one request and answered by its reply. -/
theorem HttpCluster.answer_cases {h : HttpCluster} {t : TenantId} {c : ClusterCall}
    (hc : c.Own h.ns t (·.name = some t.deploymentName)) (hns : Target.IsBare h.ns)
    (script : HttpScript) :
    (∃ e, h.answer c script = (.error e, script)) ∨
      h.answer c script =
        (h.interpret c (t.objectName c.kind)
          (script.send (c.request h.ns (t.objectName c.kind))).1,
        (script.send (c.request h.ns (t.objectName c.kind))).2) := by
  have hhash : '#' ∉ (c.request h.ns (t.objectName c.kind)).uri.toList := by
    have hbare := c.isBare_path hns t
    rcases c.uri_request h.ns (t.objectName c.kind) with huri | huri <;> rw [huri]
    · exact hbare.2
    · simp [hbare.2]
  rw [answer, exchange, hc.target?_eq]
  dsimp only
  cases huri : Target.ofText (c.request h.ns (t.objectName c.kind)).uri with
  | error fault => exact .inl ⟨_, rfl⟩
  | ok uri =>
    obtain rfl := Target.eq_of_ofText hhash huri
    exact .inr rfl

theorem HttpCluster.received_of_interpret {h : HttpCluster} {c : ClusterCall} {name : String}
    {reply : HttpReply} {a : c.Reply} (ha : h.interpret c name reply = .ok a) :
    ∃ status body, reply = .received status body ∧ isHttpFailure status = false ∧
      (Json.parse body).bind c.decode = some a := by
  cases reply with
  | nothing => cases ha
  | received status body =>
    simp only [interpret] at ha
    split_ifs at ha with hfailure
    rw [Bool.not_eq_true] at hfailure
    cases hdecode : (Json.parse body).bind c.decode with
    | none =>
      rw [hdecode] at ha
      cases ha
    | some a' =>
      rw [hdecode] at ha
      obtain rfl := Except.ok.inj ha
      exact ⟨status, body, rfl, hfailure, hdecode⟩

/-! ## Scripts -/

namespace HttpScript

variable {s s₀ s₁ s₂ : HttpScript}

/-- Some more requests have been sent, and as many replies are gone. -/
def LeadsTo (s s' : HttpScript) : Prop :=
  ∃ sent, s'.requests = s.requests ++ sent ∧ s'.replies = s.replies.drop sent.length

theorem LeadsTo.refl (s : HttpScript) : s.LeadsTo s :=
  ⟨[], by simp, by simp⟩

theorem LeadsTo.trans (h₀ : s₀.LeadsTo s₁) (h₁ : s₁.LeadsTo s₂) : s₀.LeadsTo s₂ := by
  obtain ⟨sent₀, hrequests₀, hreplies₀⟩ := h₀
  obtain ⟨sent₁, hrequests₁, hreplies₁⟩ := h₁
  refine ⟨sent₀ ++ sent₁, ?_, ?_⟩
  · rw [hrequests₁, hrequests₀, List.append_assoc]
  · rw [hreplies₁, hreplies₀, List.drop_drop, List.length_append]

theorem requests_send (s : HttpScript) (r : HttpRequest) :
    (s.send r).2.requests = s.requests ++ [r] := by
  rw [send]
  split <;> rfl

theorem leadsTo_send (s : HttpScript) (r : HttpRequest) : s.LeadsTo (s.send r).2 := by
  refine ⟨[r], s.requests_send r, ?_⟩
  rw [send]
  split
  · simp [*]
  · simp [*]

/-- A reply that has been received stands at the place of its request. -/
theorem LeadsTo.mem_zip {prepared : List HttpReply} (h₀ : (⟨prepared, []⟩ : HttpScript).LeadsTo s₁)
    {r : HttpRequest} {status : Nat} {body : String}
    (hreply : (s₁.send r).1 = .received status body) (h₁ : (s₁.send r).2.LeadsTo s₂) :
    (r, .received status body) ∈ s₂.requests.zip prepared := by
  obtain ⟨sent, hrequests, hreplies⟩ := h₀
  obtain ⟨more, hmore, -⟩ := h₁
  rw [requests_send, hrequests] at hmore
  refine List.mem_iff_getElem?.2 ⟨sent.length, List.getElem?_zip_eq_some.2 ⟨?_, ?_⟩⟩
  · rw [hmore]
    simp
  · rw [send] at hreply
    cases hnext : s₁.replies with
    | nil =>
      rw [hnext] at hreply
      cases hreply
    | cons reply rest =>
      rw [hnext] at hreply
      obtain rfl : reply = .received status body := hreply
      have hat : (prepared.drop sent.length)[0]? = some (.received status body) := by
        rw [← hreplies, hnext]
        rfl
      simpa using hat

end HttpScript

end Steading
