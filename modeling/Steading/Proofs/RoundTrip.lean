import Mathlib.Data.List.Nodup
import Steading.Plan
import Steading.Proofs.JsonText
import Steading.Proofs.Rows
import Steading.Server
import Steading.Server.Scale
import Steading.Settings

/-!
# What is written is read again

Records are stored and handed on as the compact text of a JSON value. Whatever stands in the text
fields of a record, and whichever of its optional fields are there, the text is read as that record
again; and what any text at all is read as is read again from the text that is written for it
(`Json.Faithful`). This holds of every record (`Json.faithful_records`).

A record that is written has each of its fields once and in order, so reading finds them all
(`Json.slots_obj`), except for an instance id that is empty and left out.
-/

namespace Steading

namespace Json

variable {α : Type} {encode : α → Json} {decode : Json → Option α}

/-- What a text is read as. -/
def readAs (decode : Json → Option α) (text : String) : Option α :=
  (parse text).bind decode

/-- Reading undoes writing: a value is read again from its text, and so is whatever any other text
has been read as. -/
structure Faithful (encode : α → Json) (decode : Json → Option α) : Prop where
  undone : ∀ a, readAs decode (encode a).compact = some a
  settled : ∀ text a, readAs decode text = some a → readAs decode (encode a).compact = some a

theorem Faithful.of_plain (hplain : ∀ a, (encode a).Plain)
    (hdecode : ∀ a, decode (encode a) = some a) : Faithful encode decode := by
  have hundone : ∀ a, readAs decode (encode a).compact = some a := by
    intro a
    rw [readAs, parse_compact (hplain a), Option.bind_some, hdecode]
  exact ⟨hundone, fun _ a _ => hundone a⟩

/-! ## Fields -/

@[simp]
theorem plain_int32 (n : Int32) : Plain (int32 n) := by
  have hlow := n.le_toInt
  have hhigh := n.toInt_lt
  simp only [int32, Plain, intRange, Bool.and_eq_true, decide_eq_true_eq]
  omega

theorem plain_nat {n : Nat} (h : n < 0x10000000000000000) : Plain (nat n) := by
  simp only [nat, Plain, intRange, Bool.and_eq_true, decide_eq_true_eq]
  omega

theorem plain_ofOption (h : ∀ a, Plain (encode a)) (o : Option α) : Plain (ofOption encode o) := by
  cases o with
  | none => trivial
  | some a => exact h a

theorem plainMembers_map (h : ∀ a, Plain (encode a)) :
    ∀ as : List (String × α), PlainMembers (as.map fun a => (a.1, encode a.2))
  | [] => trivial
  | a :: as => ⟨h a.2, plainMembers_map h as⟩

-- Rewriting and not `rfl`, which would have bounds of numbers worked out where these are used.

@[simp]
theorem required_given (decode : Json → Option α) (j : Json) :
    (Slot.given j).required decode = decode j := by
  rw [Slot.required]

@[simp]
theorem withDefault_given (a : α) (decode : Json → Option α) (j : Json) :
    (Slot.given j).withDefault a decode = decode j := by
  rw [Slot.withDefault]

@[simp]
theorem withDefault_omitted (a : α) (decode : Json → Option α) :
    Slot.omitted.withDefault a decode = some a :=
  rfl

@[simp]
theorem nullable_given (decode : Json → Option α) (j : Json) :
    (Slot.given j).nullable decode = Json.nullable decode j := by
  rw [Slot.nullable]

@[simp]
theorem str?_str (s : String) : str? (.str s) = some s :=
  rfl

@[simp]
theorem bool?_bool (b : Bool) : bool? (.bool b) = some b :=
  rfl

theorem below?_nat {bound n : Nat} (h : n < bound) : below? bound (nat n) = some n := by
  simp only [below?, nat]
  rw [if_pos (by omega), Int.toNat_natCast]

@[simp]
theorem uint16?_uint16 (n : UInt16) : uint16? (uint16 n) = some n := by
  have hn : n.toNat < 0x10000 := n.toNat_lt
  rw [uint16?, show uint16 n = nat n.toNat from rfl, below?_nat hn]
  simp

@[simp]
theorem uint32?_uint32 (n : UInt32) : uint32? (uint32 n) = some n := by
  have hn : n.toNat < 0x100000000 := n.toNat_lt
  rw [uint32?, show uint32 n = nat n.toNat from rfl, below?_nat hn]
  simp

@[simp]
theorem int32?_int32 (n : Int32) : int32? (int32 n) = some n := by
  have hlow := n.le_toInt
  have hhigh := n.toInt_lt
  simp only [int32?, int32]
  rw [if_pos (by omega), Int32.ofInt_toInt]

@[simp]
theorem int64?_int64 (n : Int64) : int64? (int64 n) = some n := by
  have hlow := n.le_toInt
  have hhigh := n.toInt_lt
  simp only [int64?, int64]
  rw [if_pos (by omega), Int64.ofInt_toInt]

theorem nullable_ofOption (hnull : ∀ a, encode a ≠ .null)
    (h : ∀ a, decode (encode a) = some a) (o : Option α) :
    nullable decode (ofOption encode o) = some o := by
  cases o with
  | none => rfl
  | some a =>
    have hother : nullable decode (encode a) = (decode (encode a)).map some := by
      rw [nullable.eq_def]
      split
      · exact absurd ‹_› (hnull a)
      · rfl
    rw [ofOption, hother, h, Option.map_some]

@[simp]
theorem nullable_str (o : Option String) : nullable str? (ofOption .str o) = some o :=
  nullable_ofOption nofun str?_str o

@[simp]
theorem nullable_uint16 (o : Option UInt16) : nullable uint16? (ofOption uint16 o) = some o :=
  nullable_ofOption nofun uint16?_uint16 o

@[simp]
theorem nullable_uint32 (o : Option UInt32) : nullable uint32? (ofOption uint32 o) = some o :=
  nullable_ofOption nofun uint32?_uint32 o

theorem mapM_map_of_undone {β γ : Type} {f : β → γ} {g : γ → Option β}
    (h : ∀ b, g (f b) = some b) : ∀ bs : List β, (bs.map f).mapM g = some bs
  | [] => rfl
  | b :: bs => by
    rw [List.map_cons, List.mapM_cons, h, mapM_map_of_undone h bs]
    rfl

theorem list?_arr (h : ∀ a, decode (encode a) = some a) (as : List α) :
    list? decode (.arr (as.map encode)) = some as :=
  mapM_map_of_undone h as

/-! ## Records -/

section

variable {ms : List (String × Json)}

theorem occurrences_le_one (h : (ms.map Prod.fst).Nodup) (name : String) :
    occurrences ms name ≤ 1 := by
  have hcount : occurrences ms name = (ms.map Prod.fst).count name := by
    rw [occurrences, List.count, List.countP_map, List.countP_eq_length_filter]
    rfl
  rw [hcount]
  exact List.nodup_iff_count_le_one.1 h name

theorem objectSlot_of_mem (h : (ms.map Prod.fst).Nodup) {m : String × Json} (hm : m ∈ ms) :
    objectSlot ms m.1 = .given m.2 := by
  obtain ⟨before, after, rfl⟩ := List.append_of_mem hm
  rw [List.map_append, List.map_cons, List.nodup_middle] at h
  have hlookup : (before ++ m :: after).lookup m.1 = some m.2 := by
    refine List.lookup_eq_some_iff.2 ⟨before, after, rfl, fun e he => ?_⟩
    have hne : m.1 ≠ e.1 := by
      intro heq
      rw [heq] at h
      exact (List.nodup_cons.1 h).1 (List.mem_append_left _ (List.mem_map_of_mem he))
    exact bne_iff_ne.2 hne
  rw [objectSlot, hlookup]

theorem slots_obj_of_nodup (h : (ms.map Prod.fst).Nodup) (names : List String) :
    slots names (.obj ms) = some (names.map (objectSlot ms)) := by
  rw [slots, if_pos]
  exact List.all_eq_true.2 fun name _ => decide_eq_true (occurrences_le_one h name)

/-- Nothing is missing from an object that has every field once and in order. -/
theorem slots_obj {names : List String} (hnames : names = ms.map Prod.fst) (h : names.Nodup) :
    slots names (.obj ms) = some (ms.map fun m => .given m.2) := by
  rw [hnames] at h ⊢
  rw [slots_obj_of_nodup h, List.map_map]
  exact congrArg some (List.map_congr_left fun m hm => objectSlot_of_mem h hm)

end

end Json

theorem TenantId.parse_text (t : TenantId) : parse t.text = .ok t := by
  have hpos : t.text.utf8ByteSize ≠ 0 := by
    intro hempty
    have hlabel := t.label
    rw [String.utf8ByteSize_eq_zero_iff.1 hempty] at hlabel
    cases hlabel
  rw [parse, dif_pos ⟨Nat.pos_of_ne_zero hpos, t.short⟩, dif_pos t.label]

@[simp]
theorem TenantId.ofJson?_toJson (t : TenantId) : ofJson? t.toJson = some t := by
  simp [ofJson?, toJson, t.parse_text]

/-- A tenant's id is read from a text that is an id, and from nothing else. -/
theorem TenantId.ofJson?_eq_some_iff {j : Json} {t : TenantId} :
    ofJson? j = some t ↔ ∃ raw, j = .str raw ∧ parse raw = .ok t := by
  cases j with
  | str raw =>
    have hread : ofJson? (.str raw) = (parse raw).toOption := by
      simp only [ofJson?, Json.str?_str, Option.bind_eq_bind, Option.bind_some]
      cases parse raw <;> rfl
    rw [hread]
    cases hraw : parse raw <;> simp [Except.toOption, hraw]
  | _ => simp [ofJson?, Json.str?]

@[simp]
theorem ServerState.ofJson?_toJson (s : ServerState) : ofJson? s.toJson = some s := by
  simp [ofJson?, toJson, Json.name?, s.parse_name]

@[simp]
theorem ModifierKey.ofJson?_toJson (k : ModifierKey) : ofJson? k.toJson = some k := by
  simp [ofJson?, toJson, Json.name?, k.ofName?_name]

theorem ModifierInput.ofJson?_toJson (m : ModifierInput) : ofJson? m.toJson = some m := by
  rw [ofJson?, toJson, Json.slots_obj]
  · simp
  · rfl
  · decide

@[simp]
theorem Modifier.ofJson?_toJson (m : Modifier) : ofJson? m.toJson = some m := by
  rw [ofJson?, toJson, Json.slots_obj]
  · simp
  · rfl
  · decide

@[simp]
theorem Server.ofJson?_toJson (s : Server) : ofJson? s.toJson = some s := by
  rw [ofJson?, toJson, Json.slots_obj]
  · simp
  · rfl
  · simp [fields]

@[simp]
theorem ServerRequest.modifiers_read (ms : List ModifierInput) :
    Json.list? ModifierInput.ofJson? (.arr (ms.map ModifierInput.toJson)) = some ms :=
  Json.list?_arr ModifierInput.ofJson?_toJson ms

theorem ServerRequest.ofJson?_toJson (r : ServerRequest) : ofJson? r.toJson = some r := by
  rw [ofJson?, toJson, Json.slots_obj]
  · simp
  · rfl
  · simp [fields]

@[simp]
theorem WorldDetails.modifiers_read (ms : List Modifier) :
    Json.list? Modifier.ofJson? (.arr (ms.map Modifier.toJson)) = some ms :=
  Json.list?_arr Modifier.ofJson?_toJson ms

@[simp]
theorem WorldDetails.ofJson?_toJson (w : WorldDetails) : ofJson? w.toJson = some w := by
  rw [ofJson?, toJson]
  by_cases h : w.instanceId = ""
  · -- The id is left out, and takes its default when it is not found.
    rw [Json.slots_obj_of_nodup]
    · have hw : { w with instanceId := "" } = w := by rw [← h]
      simp [fields, Json.objectSlot, h, List.lookup_cons, hw]
    · simp [h]
  · rw [Json.slots_obj]
    · simp [h]
    · simp [h, fields]
    · simp [fields]

@[simp]
theorem ServerRecord.ofJson?_toJson (r : ServerRecord) : ofJson? r.toJson = some r := by
  rw [ofJson?, toJson, Json.slots_obj]
  · simp
  · rfl
  · decide

@[simp]
theorem ServerView.ofJson?_toJson (v : ServerView) : ofJson? v.toJson = some v := by
  rw [ofJson?, toJson, Json.slots_obj]
  · simp
  · rfl
  · decide

theorem Tenant.ofJson?_toJson (t : Tenant) : ofJson? t.toJson = some t := by
  rw [ofJson?, toJson, Json.slots_obj]
  · simp
  · rfl
  · decide

theorem Entitlements.ofJson?_toJson (e : Entitlements) : ofJson? e.toJson = some e := by
  rw [ofJson?, toJson, Json.slots_obj]
  · simp
  · rfl
  · decide

@[simp]
theorem ManifestConfig.ofJson?_toJson (c : ManifestConfig) : ofJson? c.toJson = some c := by
  rw [ofJson?, toJson, Json.slots_obj]
  · simp
  · rfl
  · decide

theorem Duration.secs_lt (d : Duration) : d.secs < 0x10000000000000000 := by
  have hbound : d.nanos < 0x10000000000000000 * 1000000000 := d.lt_bound
  rw [secs]
  omega

theorem Duration.subsecNanos_lt (d : Duration) : d.subsecNanos < 0x100000000 := by
  rw [subsecNanos]
  omega

theorem Duration.ofParts?_parts (d : Duration) : ofParts? d.secs d.subsecNanos = some d := by
  have hnanos : d.secs * 1000000000 + d.subsecNanos = d.nanos := by
    rw [secs, subsecNanos]
    omega
  simp only [ofParts?, hnanos, d.lt_bound, dif_pos]

@[simp]
theorem Duration.ofJson?_toJson (d : Duration) : ofJson? d.toJson = some d := by
  have hclosed : closed d.toJson = true := rfl
  rw [toJson] at hclosed
  rw [ofJson?, toJson, Json.slots_obj]
  · -- Steps by `rfl` would have the bounds worked out.
    simp -implicitDefEqProofs [hclosed, Json.below?_nat d.secs_lt, Json.below?_nat d.subsecNanos_lt,
      d.ofParts?_parts]
  · rfl
  · decide

@[simp]
theorem SettlePolicy.ofJson?_toJson (p : SettlePolicy) : ofJson? p.toJson = some p := by
  rw [ofJson?, toJson, Json.slots_obj]
  · simp
  · rfl
  · decide

theorem Settings.ofJson?_toJson (s : Settings) : ofJson? s.toJson = some s := by
  rw [ofJson?, toJson, Json.slots_obj]
  · simp
  · rfl
  · decide

theorem ScaleRequest.ofJson?_toJson (r : ScaleRequest) : ofJson? r.toJson = some r := by
  rw [ofJson?, toJson, Json.slots_obj]
  · simp
  · rfl
  · decide

theorem Failure.ofJson?_toJson (f : Failure) : ofJson? f.toJson = some f :=
  f.ofTag?_tag

/-! ## Plans -/

namespace PlanTable

/-- The name that comes last goes behind the others. -/
theorem insertPlan_of_forall_lt {name : String} {e : Entitlements} :
    ∀ {ps : List (String × Entitlements)}, (∀ p ∈ ps, p.1 < name) →
      insertPlan name e ps = ps ++ [(name, e)]
  | [], _ => rfl
  | p :: ps, h => by
    obtain ⟨hp, hps⟩ := List.forall_mem_cons.1 h
    have hnot : ¬ name < p.1 := String.lt_asymm hp
    have hne : name ≠ p.1 := by
      rintro rfl
      exact String.lt_irrefl _ hp
    rw [insertPlan, if_neg hnot, if_neg hne, insertPlan_of_forall_lt hps, List.cons_append]

theorem plans_foldl_withPlan : ∀ {rest : List (String × Entitlements)} {t : PlanTable},
    InOrder (t.plans ++ rest) →
      (rest.foldl (fun t e => t.withPlan e.1 e.2) t).plans = t.plans ++ rest ∧
        (rest.foldl (fun t e => t.withPlan e.1 e.2) t).fallback = t.fallback
  | [], _, _ => by simp
  | e :: rest, t, h => by
    have hlast : (t.withPlan e.1 e.2).plans = t.plans ++ [e] := by
      refine insertPlan_of_forall_lt fun p hp => ?_
      exact (List.pairwise_append.1 h).2.2 p hp e List.mem_cons_self
    have hrest : InOrder ((t.withPlan e.1 e.2).plans ++ rest) := by
      rw [hlast, List.append_assoc]
      exact h
    obtain ⟨hplans, hfallback⟩ := plans_foldl_withPlan hrest
    rw [hlast, List.append_assoc] at hplans
    exact ⟨hplans, hfallback⟩

/-- A table is the table of its own entries. -/
theorem ofEntries_plans (t : PlanTable) : ofEntries t.plans t.fallback = t := by
  have hfold := plans_foldl_withPlan (t := ⟨[], List.Pairwise.nil, t.fallback⟩) t.inOrder
  rw [← ofEntries, List.nil_append] at hfold
  obtain ⟨plans, horder, fallback⟩ := t
  obtain ⟨hplans, hfallback⟩ := hfold
  cases h : ofEntries plans fallback
  simp_all

@[simp]
theorem entriesOfJson?_map (ps : List (String × Entitlements)) :
    entriesOfJson? (.obj (ps.map fun p => (p.1, p.2.toJson))) = some ps := by
  refine Json.mapM_map_of_undone (fun p => ?_) ps
  simp only [Entitlements.ofJson?_toJson, Option.map_some]

theorem ofJson?_toJson (t : PlanTable) : ofJson? t.toJson = some t := by
  have hfallback : Json.nullable Entitlements.ofJson?
      (Json.ofOption Entitlements.toJson t.fallback) = some t.fallback :=
    Json.nullable_ofOption (by simp [Entitlements.toJson]) Entitlements.ofJson?_toJson t.fallback
  rw [ofJson?, toJson, Json.slots_obj]
  · simp [hfallback, ofEntries_plans]
  · rfl
  · decide

end PlanTable

/-! ## Texts -/

theorem ModifierInput.plain_toJson (m : ModifierInput) : m.toJson.Plain :=
  ⟨trivial, trivial, trivial⟩

theorem Modifier.plain_toJson (m : Modifier) : m.toJson.Plain :=
  ⟨trivial, trivial, trivial⟩

theorem Server.plain_toJson (s : Server) : s.toJson.Plain := by
  simp [toJson, TenantId.toJson, ServerState.toJson, Json.Plain, Json.PlainMembers,
    Json.PlainMember]

theorem WorldDetails.plain_toJson (w : WorldDetails) : w.toJson.Plain := by
  have hmodifiers : Json.PlainItems (w.modifiers.map Modifier.toJson) :=
    Json.plainItems_map Modifier.plain_toJson _
  rw [toJson]
  split <;> simp [Json.Plain, Json.PlainMembers, Json.PlainMember, hmodifiers]

theorem ServerRecord.plain_toJson (r : ServerRecord) : r.toJson.Plain :=
  ⟨r.server.plain_toJson, r.world.plain_toJson, trivial⟩

theorem ServerView.plain_toJson (v : ServerView) : v.toJson.Plain :=
  ⟨v.server.plain_toJson, v.world.plain_toJson, trivial⟩

theorem Json.plain_ofOption_str (o : Option String) : (ofOption .str o).Plain :=
  @plain_ofOption _ .str (fun _ => trivial) o

theorem ServerRequest.plain_toJson (r : ServerRequest) : r.toJson.Plain := by
  have hmodifiers : Json.PlainItems (r.modifiers.map ModifierInput.toJson) :=
    Json.plainItems_map ModifierInput.plain_toJson _
  have hport := Json.plain_ofOption Json.plain_uint16 r.port
  have hnumber := Json.plain_ofOption Json.plain_uint32
  simp [toJson, Json.Plain, Json.PlainMembers, Json.PlainMember, hmodifiers, hport, hnumber]

theorem Tenant.plain_toJson (t : Tenant) : t.toJson.Plain :=
  ⟨trivial, trivial, trivial⟩

theorem Entitlements.plain_toJson (e : Entitlements) : e.toJson.Plain := by
  simp [toJson, Json.Plain, Json.PlainMembers, Json.PlainMember]

theorem PlanTable.plain_toJson (t : PlanTable) : t.toJson.Plain :=
  ⟨Json.plainMembers_map Entitlements.plain_toJson t.plans,
    Json.plain_ofOption Entitlements.plain_toJson t.fallback, trivial⟩

theorem ManifestConfig.plain_toJson (c : ManifestConfig) : c.toJson.Plain := by
  simp [toJson, Json.Plain, Json.PlainMembers, Json.PlainMember, Json.plain_ofOption_str]

theorem Duration.plain_toJson (d : Duration) : d.toJson.Plain :=
  ⟨Json.plain_nat d.secs_lt, Json.plain_nat (Nat.lt_trans d.subsecNanos_lt (by decide)), trivial⟩

theorem SettlePolicy.plain_toJson (p : SettlePolicy) : p.toJson.Plain :=
  ⟨p.timeout.plain_toJson, p.initialBackoff.plain_toJson, p.maxBackoff.plain_toJson, trivial⟩

theorem Settings.plain_toJson (s : Settings) : s.toJson.Plain :=
  ⟨s.manifests.plain_toJson, trivial, s.callTimeout.plain_toJson, s.settle.plain_toJson,
    Json.plain_ofOption_str s.dbPath, Json.plain_ofOption_str s.plansPath, trivial⟩

theorem ScaleRequest.plain_toJson (r : ScaleRequest) : r.toJson.Plain :=
  ⟨Json.plain_int32 r.replicas, trivial⟩

theorem Failure.plain_toJson (f : Failure) : f.toJson.Plain :=
  ⟨trivial, trivial⟩

/-- Every record is read again from its text. A tenant's id is read from a text that is one. -/
theorem Json.faithful_records :
    Faithful ServerRequest.toJson ServerRequest.ofJson? ∧
      Faithful WorldDetails.toJson WorldDetails.ofJson? ∧
      Faithful Modifier.toJson Modifier.ofJson? ∧
      Faithful Server.toJson Server.ofJson? ∧
      Faithful ServerRecord.toJson ServerRecord.ofJson? ∧
      Faithful ServerView.toJson ServerView.ofJson? ∧
      Faithful Tenant.toJson Tenant.ofJson? ∧
      Faithful Entitlements.toJson Entitlements.ofJson? ∧
      Faithful PlanTable.toJson PlanTable.ofJson? ∧
      Faithful ManifestConfig.toJson ManifestConfig.ofJson? ∧
      Faithful SettlePolicy.toJson SettlePolicy.ofJson? ∧
      Faithful Settings.toJson Settings.ofJson? ∧
      Faithful ScaleRequest.toJson ScaleRequest.ofJson? ∧
      Faithful Failure.toJson Failure.ofJson? ∧
      ∀ text t, readAs TenantId.ofJson? text = some t ↔
        ∃ raw, parse text = some (.str raw) ∧ TenantId.parse raw = .ok t := by
  refine ⟨.of_plain ServerRequest.plain_toJson ServerRequest.ofJson?_toJson,
    .of_plain WorldDetails.plain_toJson WorldDetails.ofJson?_toJson,
    .of_plain Modifier.plain_toJson Modifier.ofJson?_toJson,
    .of_plain Server.plain_toJson Server.ofJson?_toJson,
    .of_plain ServerRecord.plain_toJson ServerRecord.ofJson?_toJson,
    .of_plain ServerView.plain_toJson ServerView.ofJson?_toJson,
    .of_plain Tenant.plain_toJson Tenant.ofJson?_toJson,
    .of_plain Entitlements.plain_toJson Entitlements.ofJson?_toJson,
    .of_plain PlanTable.plain_toJson PlanTable.ofJson?_toJson,
    .of_plain ManifestConfig.plain_toJson ManifestConfig.ofJson?_toJson,
    .of_plain SettlePolicy.plain_toJson SettlePolicy.ofJson?_toJson,
    .of_plain Settings.plain_toJson Settings.ofJson?_toJson,
    .of_plain ScaleRequest.plain_toJson ScaleRequest.ofJson?_toJson,
    .of_plain Failure.plain_toJson Failure.ofJson?_toJson, fun text t => ?_⟩
  rw [readAs, Option.bind_eq_some_iff]
  constructor
  · rintro ⟨j, hj, ht⟩
    obtain ⟨raw, rfl, hraw⟩ := TenantId.ofJson?_eq_some_iff.1 ht
    exact ⟨raw, hj, hraw⟩
  · rintro ⟨raw, hj, hraw⟩
    exact ⟨.str raw, hj, TenantId.ofJson?_eq_some_iff.2 ⟨raw, rfl, hraw⟩⟩

end Steading
