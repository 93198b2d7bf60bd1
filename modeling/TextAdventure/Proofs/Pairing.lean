import TextAdventure.Proofs.Checkpoint

/-!
# Using one item with another

Each half of a pair is checked on its own: its target must name an item at hand that is known, and
that item must list the paired action and have what it needs.  Nothing compares the halves, so one
item can be both of them, and then it is used with itself.
-/

set_option autoImplicit false

namespace TextAdventure

namespace World

/-- A target can be one half of a pair, as this item and with this interaction. -/
structure CanPair (w : World) (target : String) (item : Item) (i : Interaction) : Prop where
  found : w.item? target = some item
  near : w.nearby item.name = true
  known : item.known = true
  /-- The interaction is that of the item which the name finds again. -/
  lists : ∃ again, w.item? item.name = some again ∧ again.interaction? pairedUse = some i ∧
    (again.collectible = true → w.player.holds item.name = true)
  met : w.meets i = true

theorem pairHalf_eq_ok {w : World} {target : String} {item : Item} :
    w.pairHalf target = .ok item ↔
      w.item? target = some item ∧ w.nearby item.name = true ∧ item.known = true := by
  cases found : w.item? target with
  | none => simp [pairHalf, found]
  | some other =>
      by_cases passes : w.nearby other.name = true ∧ other.known = true
      · have passed : w.pairHalf target = .ok other := by simp [pairHalf, found, passes]
        rw [passed, Except.ok.injEq, Option.some.injEq]
        constructor
        · intro same
          rw [← same]
          exact ⟨rfl, passes⟩
        · exact And.left
      · have failed : w.pairHalf target ≠ .ok item := by
          unfold pairHalf
          grind
        refine iff_of_false failed ?_
        rintro ⟨same, near, known⟩
        rw [Option.some.injEq] at same
        rw [same] at passes
        exact passes ⟨near, known⟩

theorem pairInteraction_eq_ok {w : World} {name first second : String} {i : Interaction} :
    w.pairInteraction name first second = .ok i ↔
      (∃ again, w.item? name = some again ∧ again.interaction? pairedUse = some i ∧
        (again.collectible = true → w.player.holds name = true)) ∧ w.meets i = true := by
  unfold pairInteraction
  cases w.item? name with
  | none => simp
  | some again =>
      have usable : (again.interaction? pairedUse).filter (fun i =>
            w.meets i && !(again.collectible && !w.player.holds name)) = some i ↔
          (again.interaction? pairedUse = some i ∧
            (again.collectible = true → w.player.holds name = true)) ∧ w.meets i = true := by
        rw [Option.filter_eq_some_iff]
        grind
      simp only [Option.some.injEq, exists_eq_left', ← usable]
      cases (again.interaction? pairedUse).filter fun i =>
          w.meets i && !(again.collectible && !w.player.holds name) with
      | none => simp
      | some j => simp

theorem pairing_eq_ok {w : World} {target other : String}
    {pair : String × String × Interaction × Interaction} :
    w.pairing target other = .ok pair ↔
      ∃ first second i j, w.CanPair target first i ∧ w.CanPair other second j ∧
        pair = (first.name, second.name, i, j) := by
  constructor
  · intro paired
    obtain ⟨first, half, paired⟩ := bind_eq_ok.mp paired
    obtain ⟨second, otherHalf, paired⟩ := bind_eq_ok.mp paired
    obtain ⟨i, interaction, paired⟩ := bind_eq_ok.mp paired
    obtain ⟨j, otherInteraction, paired⟩ := bind_eq_ok.mp paired
    obtain ⟨found, near, known⟩ := pairHalf_eq_ok.mp half
    obtain ⟨otherFound, otherNear, otherKnown⟩ := pairHalf_eq_ok.mp otherHalf
    obtain ⟨lists, met⟩ := pairInteraction_eq_ok.mp interaction
    obtain ⟨otherLists, otherMet⟩ := pairInteraction_eq_ok.mp otherInteraction
    exact ⟨first, second, i, j, ⟨found, near, known, lists, met⟩,
      ⟨otherFound, otherNear, otherKnown, otherLists, otherMet⟩, (Except.ok.inj paired).symm⟩
  · rintro ⟨first, second, i, j, can, canOther, rfl⟩
    have half := pairHalf_eq_ok.mpr ⟨can.found, can.near, can.known⟩
    have otherHalf := pairHalf_eq_ok.mpr ⟨canOther.found, canOther.near, canOther.known⟩
    refine bind_eq_ok.mpr ⟨first, half, bind_eq_ok.mpr ⟨second, otherHalf, ?_⟩⟩
    refine bind_eq_ok.mpr ⟨i, pairInteraction_eq_ok.mpr ⟨can.lists, can.met⟩, ?_⟩
    exact bind_eq_ok.mpr ⟨j, pairInteraction_eq_ok.mpr ⟨canOther.lists, canOther.met⟩, rfl⟩

/-- Two targets are used together exactly if each can be one half of a pair. -/
theorem use_success_iff {w : World} {target other : String} {more : List String} :
    (w.use (target :: other :: more)).response.status = .success ↔
      ∃ first second i j, w.CanPair target first i ∧ w.CanPair other second j := by
  simp only [use, actPair]
  cases paired : w.pairing target other with
  | error reason =>
      refine iff_of_false (fun told => Status.noConfusion told) ?_
      rintro ⟨first, second, i, j, can, canOther⟩
      have done := pairing_eq_ok.mpr ⟨first, second, i, j, can, canOther, rfl⟩
      rw [paired] at done
      contradiction
  | ok pair =>
      obtain ⟨first, second, i, j, can, canOther, _⟩ := pairing_eq_ok.mp paired
      exact iff_of_true rfl ⟨first, second, i, j, can, canOther⟩

theorem use_of_canPair {w : World} {target other : String} {more : List String}
    {first second : Item} {i j : Interaction} (can : w.CanPair target first i)
    (canOther : w.CanPair other second j) :
    w.use (target :: other :: more) = w.performPair first.name second.name i j := by
  have paired := pairing_eq_ok.mpr ⟨first, second, i, j, can, canOther, rfl⟩
  simp only [use, actPair, paired]

end World

namespace Game

/-- A line that is read as the use of two items or more succeeds exactly if each of the first two
targets can be one half of a pair, and then it performs what both halves list.  So both are at
hand; but nothing asks that they be two, and one item that can be used with something can be used
with itself. -/
theorem paired_use_succeeds_iff (g : Game) (line : String) (fromPlayer : Bool)
    {target other : String} {more : List String}
    (using_ : (g.interpret line fromPlayer).1.action = .use)
    (targets : (g.interpret line fromPlayer).1.presentTargets = target :: other :: more) :
    ((g.respond line fromPlayer).response.status = .success ↔
      ∃ first second i j, g.world.CanPair target first i ∧ g.world.CanPair other second j) ∧
    (∀ first second i j, g.world.CanPair target first i → g.world.CanPair other second j →
      (g.respond line fromPlayer).state.world =
        (g.world.performPair first.name second.name i j).state.checkVictory) ∧
    (g.world.item? target = g.world.item? other →
      ((g.respond line fromPlayer).response.status = .success ↔
        ∃ item i, g.world.CanPair target item i)) := by
  have done : g.world.carryOutInteraction (g.interpret line fromPlayer).1 =
      g.world.use (target :: other :: more) := by
    rw [World.carryOutInteraction, if_pos using_, targets]
  have group : (g.interpret line fromPlayer).1.action.group? = some .interaction := by
    rw [using_]
    rfl
  have responds := g.respond_interaction line fromPlayer group
  rw [done] at responds
  rw [responds]
  refine ⟨World.use_success_iff, ?_, fun same => World.use_success_iff.trans ?_⟩
  · intro first second i j can canOther
    rw [World.use_of_canPair can canOther]
    rfl
  · constructor
    · rintro ⟨first, _, i, _, can, _⟩
      exact ⟨first, i, can⟩
    · rintro ⟨item, i, can⟩
      exact ⟨item, item, i, i, can, { can with found := same ▸ can.found }⟩

end Game

namespace PickleQuest

def forkAndJar : Game :=
  { game with
    world := { world with
      items := items.map fun item => { item with discovered := true }
      player := { player with inventory := ["fork", "pickle jar"] } } }

theorem fork_opens_the_jar :
    (forkAndJar.interpret "use fork with jar" true).1.action = .use ∧
      (forkAndJar.interpret "use fork with jar" true).1.presentTargets = ["fork", "pickle jar"] ∧
      ∃ first second i j, forkAndJar.world.CanPair "fork" first i ∧
        forkAndJar.world.CanPair "pickle jar" second j := by
  have played : (forkAndJar.interpret "use fork with jar" true).1.action = .use ∧
      (forkAndJar.interpret "use fork with jar" true).1.presentTargets = ["fork", "pickle jar"] ∧
      (forkAndJar.respond "use fork with jar" true).response.status = .success := by
    decide +kernel
  obtain ⟨using_, targets, success⟩ := played
  have succeeds := forkAndJar.paired_use_succeeds_iff "use fork with jar" true using_ targets
  exact ⟨using_, targets, succeeds.1.mp success⟩

/-- From the start to the pickle jar, past the fork. -/
def jarRun : List Event :=
  ["go north", "open drawer", "turn on flashlight", "go east", "take jar"].map (.line · true)

/-- There is no fork at hand, and the jar is opened with itself. -/
theorem jar_is_opened_with_itself :
    ∃ loaded, game.save.1.load .resume = .ok loaded ∧
      ((loaded.run jarRun).interpret "use jar with pickles" true).1 =
        ⟨.use, [some "pickle jar", some "pickle jar"]⟩ ∧
      (loaded.run jarRun).world.nearby "fork" = false ∧
      ((loaded.run jarRun).respond "use jar with pickles" true).response.status = .success ∧
      ((loaded.run jarRun).respond "use jar with pickles" true).state.world.player.holds "pickle" =
        true := by
  have read := Game.read_after_save (g := game) (by decide +kernel) (by decide +kernel)
  have same : game.world.persisted = world := rfl
  rw [same] at read
  exact ⟨_, Game.load_of_read read, by decide +kernel⟩

end PickleQuest

end TextAdventure
