import Mathlib.Tactic.SplitIfs
import Steading.Manifest.GameArgs

/-!
# Setting the arguments of the game

Arguments can be set where there is a game container (`Deployment.isSome_setGameArgs?`), and then
the deployment differs in nothing else: not in another container or their order, nor anywhere
outside the pod (`Deployment.reargued_of_setGameArgs?`). Nor is it anything but that deployment
(`Deployment.setGameArgs?_eq_some_iff`), so all that is known of what has been set is read off
`Deployment.Reargued`: where it is found again, and what it leaves alone.
-/

namespace Steading

variable {args : String}

theorem setGameArgs?_append {game : Container} {after : List Container}
    (hgame : game.name = gameContainer) :
    ∀ {before : List Container}, (∀ c ∈ before, c.name ≠ gameContainer) →
      setGameArgs? args (before ++ game :: after) =
        some (before ++ { game with args := some [args] } :: after)
  | [], _ => if_pos (beq_iff_eq.2 hgame)
  | c :: before, hbefore => by
    obtain ⟨hc, hbefore⟩ := List.forall_mem_cons.1 hbefore
    rw [List.cons_append, setGameArgs?, if_neg (mt beq_iff_eq.1 hc),
      setGameArgs?_append hgame hbefore]
    rfl

theorem exists_append_of_setGameArgs? :
    ∀ {cs cs' : List Container}, setGameArgs? args cs = some cs' →
      ∃ before game after, cs = before ++ game :: after ∧
        (∀ c ∈ before, c.name ≠ gameContainer) ∧ game.name = gameContainer ∧
          cs' = before ++ { game with args := some [args] } :: after
  | [], _, h => by simp [setGameArgs?] at h
  | c :: cs, cs', h => by
    rw [setGameArgs?] at h
    split_ifs at h with hc
    · obtain rfl := Option.some.inj h
      exact ⟨[], c, cs, rfl, by simp, eq_of_beq hc, rfl⟩
    · obtain ⟨rest, hrest, rfl⟩ := Option.map_eq_some_iff.1 h
      obtain ⟨before, game, after, rfl, hbefore, hgame, rfl⟩ := exists_append_of_setGameArgs? hrest
      have hc : c.name ≠ gameContainer := fun heq => hc (beq_iff_eq.2 heq)
      exact ⟨c :: before, game, after, rfl, List.forall_mem_cons.2 ⟨hc, hbefore⟩, hgame, rfl⟩

/-- What is found when the arguments are read is the container that they are set in. -/
theorem find?_append_game {before after : List Container} {game : Container}
    (hbefore : ∀ c ∈ before, c.name ≠ gameContainer) (hgame : game.name = gameContainer) :
    (before ++ game :: after).find? (·.name == gameContainer) = some game := by
  refine List.find?_eq_some_iff_append.2 ⟨beq_iff_eq.2 hgame, before, after, rfl, fun c hc => ?_⟩
  rw [beq_false_of_ne (hbefore c hc), Bool.not_false]

theorem modify_findIdx_game (f : Container → Container) {game : Container} {after : List Container}
    (hgame : game.name = gameContainer) :
    ∀ {before : List Container}, (∀ c ∈ before, c.name ≠ gameContainer) →
      (before ++ game :: after).modify
          ((before ++ game :: after).findIdx (·.name == gameContainer)) f =
        before ++ f game :: after
  | [], _ => by
    rw [List.nil_append, List.findIdx_cons, beq_iff_eq.2 hgame]
    rfl
  | c :: before, hbefore => by
    obtain ⟨hc, hbefore⟩ := List.forall_mem_cons.1 hbefore
    rw [List.cons_append, List.findIdx_cons, beq_false_of_ne hc, cond_false, List.modify_succ_cons,
      modify_findIdx_game f hgame hbefore]
    rfl

theorem isSome_setGameArgs? (args : String) : ∀ cs : List Container,
    (setGameArgs? args cs).isSome = (cs.find? (·.name == gameContainer)).isSome
  | [] => rfl
  | c :: cs => by
    rw [setGameArgs?, List.find?_cons]
    by_cases hc : (c.name == gameContainer) = true
    · rw [if_pos hc, hc]
      rfl
    · rw [if_neg hc, Option.isSome_map, isSome_setGameArgs? args cs]
      rw [Bool.not_eq_true] at hc
      rw [hc]

/-- Whatever is set afterwards might as well have been set at once. -/
theorem setGameArgs?_again (args' : String) {cs cs' : List Container}
    (h : setGameArgs? args cs = some cs') :
    ∃ cs'', setGameArgs? args' cs = some cs'' ∧ setGameArgs? args' cs' = some cs'' := by
  obtain ⟨before, game, after, rfl, hbefore, hgame, rfl⟩ := exists_append_of_setGameArgs? h
  have htold : ({ game with args := some [args] } : Container).name = gameContainer := hgame
  exact ⟨_, setGameArgs?_append hgame hbefore, setGameArgs?_append htold hbefore⟩

/-- A deployment and what it is with other arguments for its game container, the first container
of that name. -/
inductive Deployment.Reargued (args : List String) : Deployment → Deployment → Prop
  | intro {d : Deployment} {spec : DeploymentSpec} {pod : PodSpec} {before after : List Container}
      {game : Container} (hspec : d.spec = some spec) (hpod : spec.template.spec = some pod)
      (hcontainers : pod.containers = before ++ game :: after)
      (hbefore : ∀ c ∈ before, c.name ≠ gameContainer) (hgame : game.name = gameContainer) :
      Reargued args d { d with spec := some { spec with
        template := { spec.template with
          spec := some { pod with
            containers := before ++ { game with args := some args } :: after } } } }

namespace Deployment

variable {d d' : Deployment}

section

variable {spec : DeploymentSpec} {pod : PodSpec}

theorem containers_of_pod (hspec : d.spec = some spec) (hpod : spec.template.spec = some pod) :
    d.containers = pod.containers := by
  rw [containers, hspec, Option.bind_some, hpod]

theorem setGameArgs?_of_pod (hspec : d.spec = some spec) (hpod : spec.template.spec = some pod) :
    d.setGameArgs? args = (Steading.setGameArgs? args pod.containers).map fun containers =>
      { d with spec := some { spec with
        template := { spec.template with spec := some { pod with containers } } } } := by
  rw [setGameArgs?, hspec]
  simp only [PodTemplate.setGameArgs?, hpod, Option.bind_eq_bind, Option.bind_some, Option.pure_def]
  cases Steading.setGameArgs? args pod.containers <;> rfl

end

/-- Arguments are set in the containers of the pod, and nowhere else. -/
theorem eq_of_setGameArgs? (h : d.setGameArgs? args = some d') :
    ∃ spec pod containers, d.spec = some spec ∧ spec.template.spec = some pod ∧
      Steading.setGameArgs? args pod.containers = some containers ∧
        d' = { d with spec := some { spec with
          template := { spec.template with spec := some { pod with containers } } } } := by
  obtain ⟨spec, hspec, h⟩ := Option.bind_eq_some_iff.1 h
  obtain ⟨template, htemplate, h⟩ := Option.bind_eq_some_iff.1 h
  obtain ⟨pod, hpod, ht⟩ := Option.bind_eq_some_iff.1 htemplate
  obtain ⟨containers, hcontainers, ht⟩ := Option.bind_eq_some_iff.1 ht
  obtain rfl := Option.some.inj ht
  exact ⟨spec, pod, containers, hspec, hpod, hcontainers, (Option.some.inj h).symm⟩

theorem reargued_of_setGameArgs? (h : d.setGameArgs? args = some d') : d.Reargued [args] d' := by
  obtain ⟨spec, pod, containers, hspec, hpod, hcontainers, rfl⟩ := eq_of_setGameArgs? h
  obtain ⟨before, game, after, heq, hbefore, hgame, rfl⟩ :=
    exists_append_of_setGameArgs? hcontainers
  exact .intro hspec hpod heq hbefore hgame

theorem setGameArgs?_eq_some_iff : d.setGameArgs? args = some d' ↔ d.Reargued [args] d' := by
  refine ⟨reargued_of_setGameArgs?, fun h => ?_⟩
  cases h with
  | intro hspec hpod hcontainers hbefore hgame =>
    rw [setGameArgs?_of_pod hspec hpod, hcontainers, setGameArgs?_append hgame hbefore,
      Option.map_some]

namespace Reargued

variable {args : List String}

theorem metadata_eq (h : d.Reargued args d') : d'.metadata = d.metadata := by
  cases h
  rfl

theorem replicas_eq (h : d.Reargued args d') :
    d'.spec.bind (·.replicas) = d.spec.bind (·.replicas) := by
  cases h with
  | intro hspec =>
    rw [hspec]
    rfl

theorem containers_eq (h : d.Reargued args d') :
    d'.containers = d.containers.modify (d.containers.findIdx (·.name == gameContainer))
      ({ · with args := some args }) := by
  cases h with
  | intro hspec hpod hcontainers hbefore hgame =>
    rw [containers_of_pod hspec hpod, hcontainers, modify_findIdx_game _ hgame hbefore]
    rfl

theorem exists_game? (h : d.Reargued args d') :
    ∃ game, d.game? = some game ∧ d'.game? = some { game with args := some args } := by
  cases h with
  | @intro spec pod before after game hspec hpod hcontainers hbefore hgame =>
    have htold : ({ game with args := some args } : Container).name = gameContainer := hgame
    refine ⟨game, ?_, find?_append_game hbefore htold⟩
    rw [game?, containers_of_pod hspec hpod, hcontainers, find?_append_game hbefore hgame]

theorem gameArgs?_eq (h : d.Reargued args d') : d'.gameArgs? = some args := by
  obtain ⟨game, -, hgame⟩ := h.exists_game?
  rw [gameArgs?, hgame, Option.bind_some]

end Reargued

theorem metadata_of_setGameArgs? (h : d.setGameArgs? args = some d') :
    d'.metadata = d.metadata :=
  (reargued_of_setGameArgs? h).metadata_eq

theorem replicas_of_setGameArgs? (h : d.setGameArgs? args = some d') :
    d'.spec.bind (·.replicas) = d.spec.bind (·.replicas) :=
  (reargued_of_setGameArgs? h).replicas_eq

theorem game?_of_setGameArgs? (h : d.setGameArgs? args = some d') :
    ∃ game, d.game? = some game ∧ d'.game? = some { game with args := some [args] } :=
  (reargued_of_setGameArgs? h).exists_game?

theorem gameArgs?_of_setGameArgs? (h : d.setGameArgs? args = some d') :
    d'.gameArgs? = some [args] :=
  (reargued_of_setGameArgs? h).gameArgs?_eq

theorem isSome_setGameArgs? (d : Deployment) (args : String) :
    (d.setGameArgs? args).isSome = d.game?.isSome := by
  cases hspec : d.spec with
  | none => rw [setGameArgs?, game?, containers, hspec]; rfl
  | some spec =>
    cases hpod : spec.template.spec with
    | none =>
      rw [setGameArgs?, game?, containers, hspec]
      simp [PodTemplate.setGameArgs?, hpod]
    | some pod =>
      rw [setGameArgs?_of_pod hspec hpod, Option.isSome_map, Steading.isSome_setGameArgs?, game?,
        containers_of_pod hspec hpod]

theorem isSome_game?_iff (d : Deployment) :
    d.game?.isSome = true ↔ ∃ c ∈ d.containers, c.name = gameContainer := by
  rw [game?, List.find?_isSome]
  simp only [beq_iff_eq]

theorem isSome_setGameArgs?_iff (d : Deployment) (args : String) :
    (d.setGameArgs? args).isSome = true ↔ ∃ c ∈ d.containers, c.name = gameContainer := by
  rw [isSome_setGameArgs?, isSome_game?_iff]

theorem setGameArgs?_again (args' : String) (h : d.setGameArgs? args = some d') :
    ∃ d'', d.setGameArgs? args' = some d'' ∧ d'.setGameArgs? args' = some d'' := by
  obtain ⟨spec, pod, containers, hspec, hpod, hcontainers, rfl⟩ := eq_of_setGameArgs? h
  obtain ⟨containers', h₁, h₂⟩ := Steading.setGameArgs?_again args' hcontainers
  rw [setGameArgs?_of_pod hspec hpod, h₁, setGameArgs?_of_pod rfl rfl, h₂]
  exact ⟨_, rfl, rfl⟩

/-- Nothing of what has been set before is left. -/
theorem setGameArgs?_getD (d : Deployment) (args args' : String) :
    ((d.setGameArgs? args).getD d).setGameArgs? args' = d.setGameArgs? args' := by
  cases h : d.setGameArgs? args with
  | none => rw [Option.getD_none]
  | some d' =>
    obtain ⟨d'', h₁, h₂⟩ := setGameArgs?_again args' h
    rw [Option.getD_some, h₁, h₂]

/-- How often a deployment runs has nothing to do with what its game is told. -/
theorem setGameArgs?_scaled (d : Deployment) (replicas : Int32) (args : String) :
    (d.scaled replicas).setGameArgs? args = (d.setGameArgs? args).map (·.scaled replicas) := by
  cases hspec : d.spec with
  | none => rw [setGameArgs?, setGameArgs?, scaled, hspec]; rfl
  | some spec =>
    cases hpod : spec.template.spec with
    | none =>
      rw [setGameArgs?, setGameArgs?, scaled, hspec]
      simp [PodTemplate.setGameArgs?, hpod]
    | some pod =>
      have hscaled : (d.scaled replicas).spec = some { spec with replicas := some replicas } := by
        rw [scaled, hspec, Option.getD_some]
      rw [setGameArgs?_of_pod hspec hpod, setGameArgs?_of_pod hscaled hpod, Option.map_map]
      rfl

/-- The arguments of the game can be set exactly if some container is the game's; if none is, the
deployment stays as it is. What is set are the arguments of the first one and nothing else, they are
what is read then, and what has been set before leaves nothing behind. -/
theorem sets_game_args_only (d : Deployment) (args : String) :
    ((d.setGameArgs? args).isSome = true ↔ ∃ c ∈ d.containers, c.name = gameContainer) ∧
      ((∀ c ∈ d.containers, c.name ≠ gameContainer) → (d.setGameArgs? args).getD d = d) ∧
      (∀ d', d.setGameArgs? args = some d' ↔ d.Reargued [args] d') ∧
      (∀ d', d.Reargued [args] d' → d'.gameArgs? = some [args] ∧
        d'.containers = d.containers.modify (d.containers.findIdx (·.name == gameContainer))
          ({ · with args := some [args] }) ∧
        d'.metadata = d.metadata ∧
        d'.spec.bind (·.replicas) = d.spec.bind (·.replicas)) ∧
      ∀ args', ((d.setGameArgs? args).getD d).setGameArgs? args' = d.setGameArgs? args' := by
  refine ⟨d.isSome_setGameArgs?_iff args, fun hnone => ?_, fun d' => setGameArgs?_eq_some_iff,
    fun d' h => ⟨h.gameArgs?_eq, h.containers_eq, h.metadata_eq, h.replicas_eq⟩,
    d.setGameArgs?_getD args⟩
  have hunset : ¬(d.setGameArgs? args).isSome = true := by
    rw [isSome_setGameArgs?_iff]
    rintro ⟨c, hc, hgame⟩
    exact hnone c hc hgame
  rw [Option.not_isSome_iff_eq_none.1 hunset, Option.getD_none]

/-- A sidecar in front of two containers of the game's name. -/
def twins : Deployment where
  metadata := { name := some "valheim-acme", ns := some "games" }
  spec := some {
    replicas := some 1
    template := {
      spec := some {
        containers := [{ name := sidecarContainer, args := some ["tail"] },
          { name := gameContainer, image := some "game" },
          { name := gameContainer, args := some ["spare"] }] } } }

/-- Of two games only the first is told anything, and of a deployment without containers none. -/
theorem sets_game_args_only_of_twins :
    (∃ d', twins.setGameArgs? "-port 2456" = some d' ∧ twins.Reargued ["-port 2456"] d' ∧
      d'.gameArgs? = some ["-port 2456"] ∧
      d'.containers = [{ name := sidecarContainer, args := some ["tail"] },
        { name := gameContainer, image := some "game", args := some ["-port 2456"] },
        { name := gameContainer, args := some ["spare"] }] ∧
      d'.metadata = twins.metadata ∧ d'.spec.bind (·.replicas) = some 1) ∧
      (∀ c ∈ (named "games" "valheim-acme").containers, c.name ≠ gameContainer) ∧
        ((named "games" "valheim-acme").setGameArgs? "-port 2456").getD
          (named "games" "valheim-acme") = named "games" "valheim-acme" := by
  obtain ⟨hset, -, hiff, hframe, -⟩ := twins.sets_game_args_only "-port 2456"
  have hgame : ∃ c ∈ twins.containers, c.name = gameContainer :=
    ⟨_, List.mem_cons_of_mem _ (List.mem_cons_self ..), rfl⟩
  obtain ⟨d', h⟩ := Option.isSome_iff_exists.1 (hset.2 hgame)
  have hreargued := (hiff d').1 h
  obtain ⟨hargs, hcontainers, hmetadata, hreplicas⟩ := hframe d' hreargued
  have hnone : ∀ c ∈ (named "games" "valheim-acme").containers, c.name ≠ gameContainer :=
    fun c hc => absurd hc List.not_mem_nil
  obtain ⟨-, hunset, -⟩ := (named "games" "valheim-acme").sets_game_args_only "-port 2456"
  exact ⟨⟨d', h, hreargued, hargs, hcontainers, hmetadata, hreplicas⟩, hnone, hunset hnone⟩

end Deployment

end Steading
