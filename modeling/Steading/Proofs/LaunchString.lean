import Steading.Manifest.GameArgs
import Steading.Proofs.Requests
import Steading.World.Launch

/-!
# Reading the launch string

The launch string is cut at every space outside quotes, and the quotes are left out (`words`). Of a
world that a request came to, whatever stands in its name, this gives back exactly the arguments
that were put in (`WorldDetails.words_launchArgs`), so two worlds with one launch string do not
differ in anything that the game is told.
-/

namespace Steading

namespace LaunchString

/-- The words of a line that goes on with a word begun. -/
def cut (quoted : Bool) (word : List Char) : List Char → List String
  | [] => [String.ofList word]
  | c :: cs =>
    if c = '"' then cut (!quoted) word cs
    else if c = ' ' ∧ quoted = false then String.ofList word :: cut false [] cs
    else cut quoted (word ++ [c]) cs

def words (s : String) : List String :=
  cut false [] s.toList

theorem cut_append {quoted : Bool} : ∀ {cs : List Char} {word rest : List Char},
    (∀ c ∈ cs, c ≠ '"' ∧ (quoted = false → c ≠ ' ')) →
      cut quoted word (cs ++ rest) = cut quoted (word ++ cs) rest
  | [], word, rest, _ => by rw [List.nil_append, List.append_nil]
  | c :: cs, word, rest, h => by
    obtain ⟨⟨hquote, hspace⟩, hcs⟩ := List.forall_mem_cons.1 h
    have hnot : ¬ (c = ' ' ∧ quoted = false) := fun ⟨hc, hquoted⟩ => hspace hquoted hc
    rw [List.cons_append, cut, if_neg hquote, if_neg hnot, cut_append hcs, List.append_assoc,
      List.singleton_append]

/-- Neither a quote nor a space. -/
def Plain (s : String) : Prop :=
  ∀ c ∈ s.toList, c ≠ '"' ∧ c ≠ ' '

instance (s : String) : Decidable (Plain s) :=
  List.decidableBAll _ s.toList

theorem plain_repr (n : Nat) : Plain n.repr := by
  intro c hc
  rw [Nat.repr_eq_ofList_toDigits, String.toList_ofList] at hc
  have hdigit := Nat.isDigit_of_mem_toDigits (by decide) (by decide) hc
  constructor <;> rintro rfl <;> cases hdigit

theorem repr_injective : Function.Injective Nat.repr := by
  intro n n' h
  have hread := congrArg (fun s => Nat.ofDigitChars 10 s.toList 0) h
  simpa only [Nat.repr_eq_ofList_toDigits, String.toList_ofList,
    Nat.ofDigitChars_ten_toDigits] using hread

end LaunchString

open LaunchString

namespace LaunchToken

/-- Nothing in the token ends it early. -/
def IsPlain : LaunchToken → Prop
  | bare s => Plain s
  | quoted s => '"' ∉ s.toList

theorem cut_render {t : LaunchToken} (h : t.IsPlain) (rest : List Char) :
    cut false [] (t.render.toList ++ rest) = cut false t.text.toList rest := by
  cases t with
  | bare s => exact cut_append fun c hc => ⟨(h c hc).1, fun _ => (h c hc).2⟩
  | quoted s =>
    have hs : ∀ c ∈ s.toList, c ≠ '"' ∧ (true = false → c ≠ ' ') := fun c hc =>
      ⟨fun hquote => h (hquote ▸ hc), nofun⟩
    have hrender : (quoted s).render.toList ++ rest = '"' :: (s.toList ++ '"' :: rest) := by
      simp [render]
    rw [hrender, cut, if_pos rfl]
    exact (cut_append hs).trans (if_pos rfl)

/-- Plain tokens on one line, with a space between any two, are read as they were written. -/
theorem words_intercalate : ∀ {t : LaunchToken} {ts : List LaunchToken},
    (∀ x ∈ t :: ts, x.IsPlain) →
      words (" ".intercalate ((t :: ts).map render)) = (t :: ts).map text
  | t, [], h => by
    have hcut := cut_render (h t (by simp)) []
    rw [List.append_nil, cut, String.ofList_toList] at hcut
    simpa [words] using hcut
  | t, u :: ts, h => by
    obtain ⟨ht, hts⟩ := List.forall_mem_cons.1 h
    have ih := words_intercalate hts
    have hspace : " ".toList = [' '] := rfl
    rw [words] at ih ⊢
    rw [List.map_cons, List.map_cons, String.intercalate_cons_cons, String.toList_append,
      String.toList_append, List.append_assoc, cut_render ht, hspace, List.singleton_append, cut,
      if_neg (by decide), if_pos ⟨rfl, rfl⟩, ← List.map_cons, ih, String.ofList_toList,
      List.map_cons, List.map_cons, List.map_cons]

end LaunchToken

/-- The file that the sidecar of a deployment is told to follow. -/
def Deployment.logFile? (d : Deployment) : Option String := do
  let sidecar ← d.containers.find? (·.name == sidecarContainer)
  let setting ← (← sidecar.env).find? (·.name == "LOG_FILE")
  setting.value

namespace Modifier

def arguments (m : Modifier) : List String :=
  ["-modifier", m.key.name, m.value]

theorem name_injective : Function.Injective ModifierKey.name := by
  intro k k' h
  revert h
  cases k <;> cases k' <;> decide

theorem plain_name (k : ModifierKey) : Plain k.name := by
  cases k <;> decide

theorem plain_of_allowed {k : ModifierKey} {v : String} (h : v ∈ k.allowed) : Plain v := by
  revert v
  cases k <;> decide

theorem flatMap_arguments_inj {log : String} : ∀ {ms ms' : List Modifier},
    ms.flatMap arguments ++ ["-logFile", log] = ms'.flatMap arguments ++ ["-logFile", log] →
      ms = ms'
  | [], [], _ => rfl
  | [], m :: ms, h => by simp [arguments] at h
  | m :: ms, [], h => by simp [arguments] at h
  | ⟨k, v⟩ :: ms, ⟨k', v'⟩ :: ms', h => by
    simp only [List.flatMap_cons, arguments, List.cons_append, List.nil_append,
      List.cons.injEq, true_and] at h
    obtain ⟨hname, rfl, hrest⟩ := h
    rw [name_injective hname, flatMap_arguments_inj hrest]

end Modifier

namespace WorldDetails

/-- What the game is to be told, word by word. -/
def arguments (w : WorldDetails) (log : String) : List String :=
  ["-name", w.name, "-port", toString w.port, "-world", w.world, "-password", w.password,
    "-instanceid", w.instanceId, "-backups", toString w.backupCount,
    "-backupshort", toString w.initialBackup, "-backuplong", toString w.backupInterval] ++
  (if w.crossplay then ["-crossplay"] else []) ++
  ["-public", if w.isPublic then "1" else "0"] ++
  w.modifiers.flatMap Modifier.arguments ++
  ["-logFile", log]

variable {w w' : WorldDetails}

theorem map_text_launchTokens (w : WorldDetails) :
    w.launchTokens.map LaunchToken.text = w.arguments logFile := by
  have hmodifiers : (w.modifiers.flatMap Modifier.launchTokens).map LaunchToken.text =
      w.modifiers.flatMap Modifier.arguments := List.map_flatMap
  have hcrossplay : (if w.crossplay then [LaunchToken.bare "-crossplay"] else []).map
      LaunchToken.text = if w.crossplay then ["-crossplay"] else [] := by
    cases w.crossplay <;> rfl
  simp only [launchTokens, List.map_append, hmodifiers, hcrossplay]
  rfl

theorem Sound.isPlain (h : w.Sound) (hid : Plain w.instanceId) :
    ∀ x ∈ w.launchTokens, x.IsPlain := by
  have hworld : '"' ∉ w.world.toList := by
    have hchars := h.world
    simp only [isWorldName, Bool.and_eq_true, List.all_eq_true] at hchars
    intro hquote
    cases hchars.2 _ hquote
  have hpassword : '"' ∉ w.password.toList := fun hquote => (h.password _ hquote).1 rfl
  have hflag : Plain (if w.isPublic then "1" else "0") := by
    cases w.isPublic <;> decide
  have hcrossplay : ∀ x ∈ if w.crossplay then [LaunchToken.bare "-crossplay"] else [],
      x.IsPlain := by
    cases w.crossplay
    · simp
    · exact List.forall_mem_singleton.2 (by decide : Plain "-crossplay")
  have hmodifiers : ∀ x ∈ w.modifiers.flatMap Modifier.launchTokens, x.IsPlain := by
    intro x hx
    obtain ⟨m, hm, hx⟩ := List.mem_flatMap.1 hx
    simp only [Modifier.launchTokens, List.mem_cons, List.not_mem_nil, or_false] at hx
    rcases hx with rfl | rfl | rfl
    · exact (by decide : Plain "-modifier")
    · exact Modifier.plain_name m.key
    · exact Modifier.plain_of_allowed (h.values m hm)
  -- The names of the arguments are plain as they stand.
  have hfixed : ∀ s ∈ ["-name", "-port", "-world", "-password", "-instanceid", "-backups",
      "-backupshort", "-backuplong", "-public", "-logFile", logFile], Plain s := by decide
  simp only [List.forall_mem_cons] at hfixed
  obtain ⟨name, port, world, password, instanceId, backups, short, long, isPublic, log, file, -⟩ :=
    hfixed
  simp only [launchTokens, List.forall_mem_append, List.forall_mem_cons]
  exact ⟨⟨⟨⟨⟨name, h.unquoted, port, plain_repr _, world, hworld, password, hpassword, instanceId,
    hid, backups, plain_repr _, short, plain_repr _, long, plain_repr _, by simp⟩, hcrossplay⟩,
    isPublic, hflag, by simp⟩, hmodifiers⟩, log, file, by simp⟩

/-- The game is told the same in both worlds. -/
structure SameLaunch (w w' : WorldDetails) : Prop where
  name : w'.name = w.name
  port : w'.port = w.port
  world : w'.world = w.world
  password : w'.password = w.password
  instanceId : w'.instanceId = w.instanceId
  backupCount : w'.backupCount = w.backupCount
  initialBackup : w'.initialBackup = w.initialBackup
  backupInterval : w'.backupInterval = w.backupInterval
  crossplay : w'.crossplay = w.crossplay
  isPublic : w'.isPublic = w.isPublic
  modifiers : w'.modifiers = w.modifiers

theorem sameLaunch_of_arguments {log : String} (h : w'.arguments log = w.arguments log) :
    w.SameLaunch w' := by
  have hport {p p' : UInt16} (h : toString p = toString p') : p = p' :=
    UInt16.toNat_inj.1 (repr_injective h)
  have hnumber {n n' : UInt32} (h : toString n = toString n') : n = n' :=
    UInt32.toNat_inj.1 (repr_injective h)
  simp only [arguments, List.append_assoc, List.cons_append, List.nil_append, List.cons.injEq,
    true_and] at h
  obtain ⟨hname, hp, hworld, hpassword, hid, hcount, hinitial, hinterval, hrest⟩ := h
  -- The word behind the intervals tells whether crossplay is on.
  have hcrossplay : w'.crossplay = w.crossplay := by
    cases h₁ : w'.crossplay <;> cases h₂ : w.crossplay <;> simp [h₁, h₂] at hrest ⊢
  rw [hcrossplay, List.append_cancel_left_eq, List.cons.injEq, List.cons.injEq] at hrest
  obtain ⟨-, hflag, hmodifiers⟩ := hrest
  have hisPublic : w'.isPublic = w.isPublic := by
    cases h₁ : w'.isPublic <;> cases h₂ : w.isPublic <;> simp [h₁, h₂] at hflag ⊢
  exact ⟨hname, hport hp, hworld, hpassword, hid, hnumber hcount, hnumber hinitial,
    hnumber hinterval, hcrossplay, hisPublic, Modifier.flatMap_arguments_inj hmodifiers⟩

/-- However a request is put, the game is told what is in its world and nothing else, and is told
the same only in worlds that agree in all of it. -/
theorem words_launchArgs {r r' : ServerRequest} {e e' : Entitlements} {id id' : String}
    (hw : ofRequest r e id = .ok w) (hid : Plain id) :
    ∃ log, (∀ c t, (tenantDeployment c t w).logFile? = some log) ∧
      words w.launchArgs = w.arguments log ∧
      (ofRequest r' e' id' = .ok w' → Plain id' → w'.launchArgs = w.launchArgs →
        w.SameLaunch w') := by
  have hwords : ∀ {r e id w}, ofRequest r e id = .ok w → Plain id →
      words w.launchArgs = w.arguments logFile := by
    intro r e id w hw hid
    rw [← instanceId_of_ofRequest hw] at hid
    rw [← map_text_launchTokens]
    exact LaunchToken.words_intercalate ((sound_of_ofRequest hw).isPlain hid)
  refine ⟨logFile, fun _ _ => rfl, hwords hw hid, fun hw' hid' hsame => ?_⟩
  have harguments : w'.arguments logFile = w.arguments logFile := by
    rw [← hwords hw' hid', ← hwords hw hid, hsame]
  exact sameLaunch_of_arguments harguments

/-- A name that looks like an argument is read as a name, and two plans make no difference to the
game where only the demands differ. -/
theorem words_launchArgs_of_flag_in_name :
    let r := { ServerRequest.sample with name := "Asgard -public 1 Vanaheim" }
    ∃ w w', ofRequest r ⟨8, 16, 10, 5, true⟩ "5ead" = .ok w ∧
      ofRequest r ⟨2, 4, 10, 5, true⟩ "5ead" = .ok w' ∧ w'.cpu ≠ w.cpu ∧
      words w.launchArgs =
        ["-name", "Asgard -public 1 Vanaheim", "-port", "2456", "-world", "Yggdrasil",
          "-password", "bifrost", "-instanceid", "5ead", "-backups", "4", "-backupshort", "7200",
          "-backuplong", "43200", "-crossplay", "-public", "0", "-modifier", "combat", "hard",
          "-logFile", logFile] ∧
      w.SameLaunch w' := by
  intro r
  have hvalidate : r.validate = .ok [⟨.combat, "hard"⟩] := by
    decide +kernel
  have hw (e : Entitlements) : ofRequest r e "5ead" = .ok (fill r e "5ead" [⟨.combat, "hard"⟩]) :=
    ofRequest_eq_ok_iff.2 ⟨_, hvalidate, rfl⟩
  obtain ⟨log, hlog, hwords, hsame⟩ := words_launchArgs (hw ⟨8, 16, 10, 5, true⟩) (by decide)
  obtain rfl : logFile = log := Option.some.inj (hlog Controller.sample.manifests default)
  refine ⟨_, _, hw _, hw _, by decide, hwords.trans (by decide +kernel),
    hsame (hw _) (by decide) ?_⟩
  decide +kernel

end WorldDetails

end Steading
