import TextAdventure.Proofs.Acting
import TextAdventure.Proofs.Development
import TextAdventure.Proofs.Lookup

/-!
# Nothing is done at a distance

Where each item is the first that answers to its own name, looking an item up again finds the same
one, so both halves of a pair are asked for what a single item is.  Then a line that acts on items
succeeds exactly if each of its targets can be acted on from where the player is.
-/

set_option autoImplicit false

namespace TextAdventure

section Lists

theorem pairwise_of_find? {l : List Item} (once : l.Nodup)
    (own : ∀ item ∈ l, l.find? (·.answersTo item.name) = some item) :
    l.Pairwise fun earlier item => earlier.answersTo item.name = false := by
  induction l with
  | nil => exact .nil
  | cons a rest ih =>
      obtain ⟨absent, restOnce⟩ := List.nodup_cons.mp once
      have apart : ∀ item ∈ rest, a.answersTo item.name = false := by
        intro item later
        by_contra answers
        have found := own item (List.mem_cons_of_mem a later)
        rw [List.find?_cons_of_pos (by simpa using answers)] at found
        exact absent (Option.some.inj found ▸ later)
      refine .cons apart (ih restOnce ?_)
      intro item later
      have found := own item (List.mem_cons_of_mem a later)
      rwa [List.find?_cons_of_neg (by simp [apart item later])] at found

theorem find?_of_pairwise {l : List Item}
    (apart : l.Pairwise fun earlier item => earlier.answersTo item.name = false) {item : Item}
    (member : item ∈ l) : l.find? (·.answersTo item.name) = some item := by
  induction apart with
  | nil => exact absurd member List.not_mem_nil
  | @cons a rest first _ ih =>
      rcases List.mem_cons.mp member with rfl | later
      · exact List.find?_cons_of_pos item.answersTo_own
      · rw [List.find?_cons_of_neg (by simp [first item later])]
        exact ih later

end Lists

namespace World

/-- Each item is the first that answers to its own name. -/
def OwnNames (w : World) : Prop := ∀ item ∈ w.items, w.item? item.name = some item

instance (w : World) : Decidable w.OwnNames := inferInstanceAs (Decidable (∀ item ∈ w.items, _))

variable {w : World}

theorem OwnNames.canPair_iff (own : w.OwnNames) {target : String} {item : Item} {i : Interaction} :
    w.CanPair target item i ↔ w.CanAct target pairedUse item i := by
  constructor
  · intro can
    obtain ⟨again, foundAgain, lists, held⟩ := can.lists
    rw [own item (item?_mem can.found), Option.some.injEq] at foundAgain
    subst foundAgain
    exact ⟨can.found, reaches_iff.mpr ⟨can.near, can.known⟩,
      fun collectible => holds_iff.mp (held collectible), lists, meets_iff.mp can.met⟩
  · intro can
    obtain ⟨near, known⟩ := reaches_iff.mp can.reach
    exact ⟨can.found, near, known, ⟨item, own item (item?_mem can.found), can.lists,
      fun collectible => holds_iff.mpr (can.held collectible)⟩, meets_iff.mpr can.requires⟩

theorem OwnNames.does_iff (own : w.OwnNames) (intent : Intent) :
    (∃ deed, w.Does intent deed) ↔ intent.attempts ≠ [] ∧
      ∀ target action, (target, action) ∈ intent.attempts →
        ∃ item i, w.CanAct target action item i := by
  constructor
  · rintro ⟨deed, does⟩
    cases does with
    | alone asked can =>
        rw [asked]
        refine ⟨List.cons_ne_nil _ _, ?_⟩
        intro target action listed
        cases List.mem_singleton.mp listed
        exact ⟨_, _, can⟩
    | paired asked can canOther =>
        rw [asked]
        refine ⟨List.cons_ne_nil _ _, ?_⟩
        intro target action listed
        rcases List.mem_cons.mp listed with same | same
        · cases same
          exact ⟨_, _, own.canPair_iff.mp can⟩
        · cases List.mem_singleton.mp same
          exact ⟨_, _, own.canPair_iff.mp canOther⟩
  · rintro ⟨tries, can⟩
    rcases w.deed?_cases intent with ⟨idle, _⟩ | ⟨target, action, asked, _⟩ |
      ⟨target, other, _, asked, _⟩
    · exact absurd idle tries
    · obtain ⟨item, i, canAct⟩ := can target action (by simp [asked])
      exact ⟨_, .alone asked canAct⟩
    · obtain ⟨first, i, canFirst⟩ := can target pairedUse (by simp [asked])
      obtain ⟨second, j, canSecond⟩ := can other pairedUse (by simp [asked])
      exact ⟨_, .paired asked (own.canPair_iff.mpr canFirst) (own.canPair_iff.mpr canSecond)⟩

/-- Nothing that happens to the items makes another one answer to a name. -/
theorem OwnNames.of_develops {after : World} {told : String → List String → Prop}
    (own : w.OwnNames) (once : w.items.Nodup) (develops : w.Develops told after) :
    after.OwnNames := by
  have apart := pairwise_of_find? once own
  have same := develops.items_fixed
  -- What an item is called is a part of what stays fixed.
  have still : (after.items.map Item.fixed).Pairwise
      fun earlier item => earlier.answersTo item.name = false := by
    rw [same]
    exact List.pairwise_map.mpr apart
  exact fun _ member => find?_of_pairwise (List.pairwise_map.mp still) member

end World

namespace Game

open World

/-- Where each item is the first that answers to its own name, a line that is read as acting on
items succeeds exactly if it has targets and each of them names an item within reach that can be
acted on so: all that the interaction requires is within reach too, and a collectible item is
carried.  If no item is listed twice, this stays so in all states of a run that loads nothing. -/
theorem interaction_succeeds_iff (g : Game) (own : g.world.OwnNames) :
    (∀ line fromPlayer, (g.interpret line fromPlayer).1.action.group? = some .interaction →
      ((g.respond line fromPlayer).response.status = .success ↔
        (g.interpret line fromPlayer).1.attempts ≠ [] ∧
          ∀ target action, (target, action) ∈ (g.interpret line fromPlayer).1.attempts →
            ∃ item i, g.world.CanAct target action item i)) ∧
    (g.world.items.Nodup → ∀ events, g.Loadless events →
      ∀ s ∈ g.states events, s.world.OwnNames) := by
  constructor
  · intro line fromPlayer group
    rw [g.respond_interaction line fromPlayer group]
    exact (g.world.interaction_success_iff _).trans (own.does_iff _)
  · intro once events loadless s member
    exact own.of_develops once (develops_states events loadless s member)

end Game

namespace PickleQuest

/-- There is nothing but the fork, the jar and what is in it. -/
def atTheJar : Game :=
  { forkAndJar with
    world := { forkAndJar.world with
      items := [fork, pickleJar, pickle].map fun item => { item with discovered := true } } }

/-- The fork opens the jar, so both are within reach; and no item is mistaken for another after. -/
theorem fork_and_jar_are_within_reach :
    let eating := [Event.line "use fork with jar" true, .turn "chew pickle"]
    atTheJar.world.OwnNames ∧
      (∃ item i, atTheJar.world.CanAct "fork" World.pairedUse item i) ∧
      (∃ item i, atTheJar.world.CanAct "pickle jar" World.pairedUse item i) ∧
      atTheJar.Loadless eating ∧ ∀ s ∈ atTheJar.states eating, s.world.OwnNames := by
  intro eating
  have played : atTheJar.world.OwnNames ∧ atTheJar.world.items.Nodup ∧
      (atTheJar.interpret "use fork with jar" true).1.action.group? = some .interaction ∧
      (atTheJar.interpret "use fork with jar" true).1.attempts =
        [("fork", World.pairedUse), ("pickle jar", World.pairedUse)] ∧
      (atTheJar.respond "use fork with jar" true).response.status = .success ∧
      atTheJar.Loadless eating := by
    decide +kernel
  obtain ⟨own, once, group, asked, success, loadless⟩ := played
  have succeeds := atTheJar.interaction_succeeds_iff own
  have can := ((succeeds.1 "use fork with jar" true group).mp success).2
  rw [asked] at can
  exact ⟨own, can _ _ (by simp), can _ _ (by simp), loadless, succeeds.2 once eating loadless⟩

end PickleQuest

end TextAdventure
