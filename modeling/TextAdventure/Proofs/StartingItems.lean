import TextAdventure.Proofs.LeftLying

/-!
# Items that a description takes to be still there

A fragment about an item that was in a room from the start is shown as long as the item has not been
found, wherever it is.  Taking an item or making it finds it; using it up does not.  So in a run
from a world where such items lie in their rooms until they are found, the item of a fragment that
is shown is there still, unless it was used up there unfound.
-/

set_option autoImplicit false

namespace TextAdventure

open Transform

namespace World

/-- There is an item of this name, and it has not been found. -/
def Unfound (w : World) (name : String) : Prop := ∃ item ∈ w.record? name, item.discovered = false

instance (w : World) (name : String) : Decidable (w.Unfound name) :=
  inferInstanceAs (Decidable (∃ item ∈ w.record? name, item.discovered = false))

/-- What a room has had from the start lies in it until it is found. -/
def Stocked (w : World) : Prop :=
  ∀ room ∈ w.rooms, ∀ name ∈ room.startingInventory, w.Unfound name → name ∈ room.inventory

instance (w : World) : Decidable w.Stocked :=
  inferInstanceAs (Decidable (∀ room ∈ w.rooms, ∀ name ∈ room.startingInventory,
    w.Unfound name → name ∈ room.inventory))

/-- The fragments of the full description of a room. -/
def fragments (w : World) (room : Room) : List (String × String) :=
  room.description.filter fun fragment => w.showsFragment room fragment.1

theorem describe_eq (w : World) (room : Room) :
    w.describe room = " ".intercalate ((w.fragments room).map (·.2)) := rfl

theorem unfound_of_fragment {w : World} {room : Room} {fragment : String × String}
    (shown : fragment ∈ w.fragments room) (starting : fragment.1 ∈ room.startingInventory) :
    w.Unfound fragment.1 := by
  have shows := (List.mem_filter.mp shown).2
  rw [showsFragment, if_pos (List.contains_iff_mem.mpr starting)] at shows
  cases record : w.record? fragment.1 with
  | none => simp [record] at shows
  | some item =>
      simp only [record, Bool.and_eq_true, Bool.not_eq_true'] at shows
      exact ⟨item, record, shows.1.2⟩

theorem Stocked.lies {w : World} (stocked : w.Stocked) {k : Nat} {room : Room}
    (there : w.rooms[k]? = some room) {name : String} (starting : name ∈ room.startingInventory)
    (unfound : w.Unfound name) : name ∈ w.lyingAt k := by
  have lies := stocked room (List.mem_of_getElem? there) name starting unfound
  simpa [lyingAt, there] using lies

theorem Stocked.marks {before after : World} (stocked : before.Stocked)
    (marks : before.Marks after) : after.Stocked := by
  obtain ⟨won, watched, dirty, _, _, rfl⟩ := marks
  exact stocked

theorem exists_room_of_plan {before after : World} (plan : after.plan = before.plan) {k : Nat}
    {room : Room} (there : after.rooms[k]? = some room) :
    ∃ first, before.rooms[k]? = some first ∧
      first.startingInventory = room.startingInventory := by
  have planned : before.plan[k]? = some { room with inventory := [] } := by
    rw [← plan, World.plan, List.getElem?_map, there, Option.map_some]
  rw [World.plan, List.getElem?_map] at planned
  obtain ⟨first, found, same⟩ := Option.map_eq_some_iff.mp planned
  have starting := congrArg Room.startingInventory same
  exact ⟨first, found, starting⟩

/-! ## Finding -/

theorem unfound_iff {w : World} {name : String} :
    w.Unfound name ↔ ∃ collectible, w.flags? name = some (collectible, false) := by
  simp only [Unfound, flags?, Option.mem_def, Option.map_eq_some_iff, Prod.mk.injEq]
  constructor
  · rintro ⟨item, record, undiscovered⟩
    exact ⟨item.collectible, item, record, rfl, undiscovered⟩
  · rintro ⟨_, item, record, _, undiscovered⟩
    exact ⟨item, record, undiscovered⟩

theorem Learns.unfound_iff {names : List String} {before after : World}
    (learns : Learns names before after) {name : String} :
    after.Unfound name ↔ before.Unfound name ∧ name ∉ names := by
  rw [World.unfound_iff, World.unfound_iff, learns name]
  rcases before.flags? name with _ | ⟨collectible, discovered⟩
  · simp
  · simp

theorem Alters.learns {w altered : World} {v : Vocabulary} {intent : Intent} {response : Response}
    (alters : w.Alters v intent response altered) : ∃ names, Learns names w altered := by
  cases alters with
  | nothing => exact ⟨[], learns_of_items rfl⟩
  | hinted => exact ⟨[], learns_of_items rfl⟩
  | walked destination action can success => exact ⟨[], learns_of_items rfl⟩
  | took item action can success => exact ⟨_, w.learns_pickUp item.name⟩
  | dropped item action can success => exact ⟨[], learns_of_items rfl⟩
  | did deed doing success => exact ⟨_, w.learns_carryOutDeed deed⟩

theorem Marks.learns {before after : World} (marks : before.Marks after) :
    Learns [] before after := by
  obtain ⟨won, watched, dirty, _, _, rfl⟩ := marks
  exact learns_of_items rfl

/-! ## Where an unfound item is -/

/-- No item of this name lies in the room at this place or is carried. -/
structure Away (w : World) (k : Nat) (name : String) : Prop where
  lies : name ∉ w.lyingAt k
  carried : name ∉ w.player.inventory

/-- What lies in the room at this place stays there, and what is away stays so. -/
structure Leaves (before : World) (k : Nat) (name : String) (after : World) : Prop where
  lies : name ∈ before.lyingAt k → name ∈ after.lyingAt k
  away : before.Away k name → after.Away k name

theorem leaves_of_same {before after : World} {k : Nat} {name : String}
    (lies : name ∈ after.lyingAt k ↔ name ∈ before.lyingAt k)
    (carried : name ∈ after.player.inventory ↔ name ∈ before.player.inventory) :
    before.Leaves k name after :=
  ⟨lies.mpr, fun away => ⟨mt lies.mp away.lies, mt carried.mp away.carried⟩⟩

theorem Leaves.trans {before middle after : World} {k : Nat} {name : String}
    (early : before.Leaves k name middle) (late : middle.Leaves k name after) :
    before.Leaves k name after :=
  ⟨fun lies => late.lies (early.lies lies), fun away => late.away (early.away away)⟩

theorem Marks.leaves {before after : World} (marks : before.Marks after) (k : Nat)
    (name : String) : before.Leaves k name after := by
  obtain ⟨won, watched, dirty, _, _, rfl⟩ := marks
  exact leaves_of_same Iff.rfl Iff.rfl

theorem Rearranges.lyingAt_elsewhere {before after : World} (moved : before.Rearranges after)
    {k : Nat} (other : before.currentPlace? ≠ some k) : after.lyingAt k = before.lyingAt k := by
  rw [lyingAt, lyingAt, getElem?_of_roomsWith moved.rooms other]

theorem Rearranges.mem_lyingAt_iff {before after : World} (moved : before.Rearranges after)
    {name : String} (same : name ∈ after.lyingHere ↔ name ∈ before.lyingHere) (k : Nat) :
    name ∈ after.lyingAt k ↔ name ∈ before.lyingAt k := by
  by_cases here : before.currentPlace? = some k
  · rw [lyingAt_here (moved.currentPlace?.trans here), lyingAt_here here]
    exact same
  · rw [moved.lyingAt_elsewhere here]

theorem leaves_pickUp {w : World} {item name : String} {k : Nat}
    (unfound : (w.pickUp item).Unfound name) : w.Leaves k name (w.pickUp item) := by
  have other : name ≠ item := by
    simpa using ((w.learns_pickUp item).unfound_iff.mp unfound).2
  have here := w.lyingHere_pickUp item
  apply leaves_of_same
  · apply (w.rearranges_pickUp item).mem_lyingAt_iff
    simp [here, removeName, other]
  · rw [inventory_pickUp, addName]
    split
    · rfl
    · simp [other]

theorem leaves_putDown {w : World} {room : Room} (inside : w.currentRoom? = some room)
    {item name : String} (held : item ∈ w.player.inventory) {k : Nat} :
    w.Leaves k name (w.putDown item) := by
  have here := lyingHere_putDown inside item
  have carried := inventory_putDown inside item
  have moved := w.rearranges_putDown item
  by_cases same : name = item
  · subst same
    constructor
    · intro lies
      by_cases place : w.currentPlace? = some k
      · rw [lyingAt_here (moved.currentPlace?.trans place), here, addName]
        rw [lyingAt_here place] at lies
        split
        · exact lies
        · exact List.mem_append_left _ lies
      · rwa [moved.lyingAt_elsewhere place]
    · exact fun away => absurd held away.carried
  · apply leaves_of_same
    · apply moved.mem_lyingAt_iff
      rw [here, addName]
      split
      · rfl
      · simp [same]
    · simp [carried, removeName, same]

section Deeds

variable {w : World} {deed : Deed} {name : String}

/-- What a deed leaves unfound it does not make, so it mentions that only to use it up. -/
theorem mentioned_unfound (unfound : (w.carryOutDeed deed).state.Unfound name) :
    (name ∈ deed.transforms.flatMap mentions ↔ ∃ t ∈ deed.transforms, t.source = some name) ∧
      name ∉ madeBy deed.transforms := by
  have fresh : name ∉ deed.finds := ((w.learns_carryOutDeed deed).unfound_iff.mp unfound).2
  have unmade : ∀ t ∈ deed.transforms, t.result ≠ some name := by
    intro t listed made
    apply fresh
    rw [Deed.finds]
    exact List.mem_append_right _
      (List.mem_flatMap.mpr ⟨t, listed, Option.mem_toList.mpr made⟩)
  constructor
  · constructor
    · intro mentioned
      obtain ⟨t, listed, named⟩ := List.mem_flatMap.mp mentioned
      rcases List.mem_append.mp named with source | result
      · exact ⟨t, listed, Option.mem_toList.mp source⟩
      · exact absurd (Option.mem_toList.mp result) (unmade t listed)
    · rintro ⟨t, listed, source⟩
      exact List.mem_flatMap.mpr ⟨t, listed,
        List.mem_append_left _ (Option.mem_toList.mpr source)⟩
  · intro made
    obtain ⟨t, listed, result⟩ := result_of_madeBy made
    exact unmade t listed result

theorem carried_of_unfound (unfound : (w.carryOutDeed deed).state.Unfound name) :
    name ∈ (w.carryOutDeed deed).state.player.inventory ↔
      name ∈ w.player.inventory ∧ name ∉ deed.transforms.flatMap mentions := by
  rw [inventory_carryOutDeed, List.mem_append, or_iff_left (mentioned_unfound unfound).2,
    mem_withoutNames]

theorem mem_lyingHere_carryOutDeed (w : World) (deed : Deed) (name : String) :
    name ∈ (w.carryOutDeed deed).state.lyingHere ↔
      name ∈ w.lyingHere ∧ name ∉ deed.transforms.flatMap mentions := by
  rw [lyingHere_carryOutDeed, mem_withoutNames]

theorem away_of_used {k : Nat} (unfound : (w.carryOutDeed deed).state.Unfound name)
    (place : w.currentPlace? = some k) (used : ∃ t ∈ deed.transforms, t.source = some name) :
    (w.carryOutDeed deed).state.Away k name := by
  have mentioned := (mentioned_unfound unfound).1.mpr used
  have moved := w.rearranges_carryOutDeed deed
  constructor
  · rw [lyingAt_here (moved.currentPlace?.trans place), mem_lyingHere_carryOutDeed]
    exact fun lies => lies.2 mentioned
  · rw [carried_of_unfound unfound]
    exact fun carried => carried.2 mentioned

/-- A deed leaves an unfound item alone unless it uses that up in the room where it is done. -/
theorem leaves_carryOutDeed {k : Nat} (unfound : (w.carryOutDeed deed).state.Unfound name)
    (spared : ¬ (w.currentPlace? = some k ∧ ∃ t ∈ deed.transforms, t.source = some name)) :
    w.Leaves k name (w.carryOutDeed deed).state := by
  have moved := w.rearranges_carryOutDeed deed
  have carried := carried_of_unfound unfound
  by_cases place : w.currentPlace? = some k
  · have kept : name ∉ deed.transforms.flatMap mentions := by
      rw [(mentioned_unfound unfound).1]
      exact fun used => spared ⟨place, used⟩
    apply leaves_of_same
    · apply moved.mem_lyingAt_iff
      rw [mem_lyingHere_carryOutDeed, and_iff_left kept]
    · rw [carried, and_iff_left kept]
  · have same := moved.lyingAt_elsewhere place
    constructor
    · rw [same]
      exact id
    · intro away
      exact ⟨same ▸ away.lies, fun held => away.carried (carried.mp held).1⟩

end Deeds

end World

namespace Game

open World

/-! ## Events -/

/-- In the room at this place an event uses up what has this name. -/
def UsesUpAt (k : Nat) (name : String) (g : Game) (event : Event) : Prop :=
  g.world.currentPlace? = some k ∧ g.UsesUp name event

instance (k : Nat) (name : String) (g : Game) (event : Event) :
    Decidable (g.UsesUpAt k name event) :=
  inferInstanceAs (Decidable (_ ∧ ∃ deed ∈ g.deed? event, ∃ t ∈ deed.transforms,
    t.source = some name))

/-- An event that does something with items does it to the world, and sets marks after that. -/
theorem marks_deed {g : Game} {event : Event} {deed : Deed} (doing : g.deed? event = some deed) :
    (g.world.carryOutDeed deed).state.Marks (g.after event).world := by
  have line : ∀ text fromPlayer, g.world.deed? (g.interpret text fromPlayer).1 = some deed →
      (g.world.carryOutDeed deed).state.Marks (g.respond text fromPlayer).state.world := by
    intro text fromPlayer does
    have group : (g.interpret text fromPlayer).1.action.group? = some .interaction := by
      refine Decidable.byContradiction fun other => ?_
      rw [deed?_eq_none other] at does
      contradiction
    rw [g.respond_interaction text fromPlayer group]
    rcases g.world.carryOutInteraction_eq (g.interpret text fromPlayer).1 with
      ⟨idle, _⟩ | ⟨other, same, done⟩
    · rw [does] at idle
      contradiction
    · rw [does, Option.some.injEq] at same
      subst same
      rw [done]
      exact marks_checkVictory _
  cases event with
  | line text fromPlayer => exact line text fromPlayer doing
  | turn text =>
      rw [after_turn]
      exact (line text true doing).trans (marks_rollCredits _)
  | save => simp [deed?, intent?] at doing
  | load mode => simp [deed?, intent?] at doing
  | closing => simp [deed?, intent?] at doing

section Events

variable {g : Game} {event : Event} {k : Nat} {name : String}

theorem unfound_of_after (loadless : g.loaded? (g.request? event) = none)
    (unfound : (g.after event).world.Unfound name) : g.world.Unfound name := by
  rcases g.after_cases loadless with marks | ⟨intent, response, w, _, _, alters, marks⟩
  · exact (marks.learns.unfound_iff.mp unfound).1
  · obtain ⟨names, learns⟩ := alters.learns
    exact (learns.unfound_iff.mp (marks.learns.unfound_iff.mp unfound).1).1

theorem away_after (unfound : (g.after event).world.Unfound name)
    (used : g.UsesUpAt k name event) : (g.after event).world.Away k name := by
  obtain ⟨place, deed, doing, source⟩ := used
  have marks := marks_deed doing
  have still := (marks.learns.unfound_iff.mp unfound).1
  exact (marks.leaves k name).away (away_of_used still place source)

/-- An event leaves an unfound item alone unless it loads a world or uses the item up there. -/
theorem leaves_after (loadless : g.loaded? (g.request? event) = none)
    (unfound : (g.after event).world.Unfound name) (spared : ¬ g.UsesUpAt k name event) :
    g.world.Leaves k name (g.after event).world := by
  cases doing : g.deed? event with
  | some deed =>
      have marks := marks_deed doing
      have still := (marks.learns.unfound_iff.mp unfound).1
      refine (leaves_carryOutDeed still ?_).trans (marks.leaves k name)
      exact fun used => spared ⟨used.1, deed, doing, used.2⟩
  | none =>
      rcases g.after_cases loadless with marks | ⟨intent, response, w, asked, _, alters, marks⟩
      · exact marks.leaves k name
      · have still := (marks.learns.unfound_iff.mp unfound).1
        refine Leaves.trans ?_ (marks.leaves k name)
        cases alters with
        | nothing => exact leaves_of_same Iff.rfl Iff.rfl
        | hinted => exact leaves_of_same Iff.rfl Iff.rfl
        | walked destination action can success => exact leaves_of_same Iff.rfl Iff.rfl
        | took item action can success => exact leaves_pickUp still
        | dropped item action can success =>
            obtain ⟨room, inside⟩ := can.room
            exact leaves_putDown inside (List.contains_iff_mem.mp can.held)
        | did deed does success =>
            rw [deed?, asked, Option.bind_some, does] at doing
            contradiction

end Events

/-! ## Runs -/

section Loadless

variable {k : Nat} {name : String}

theorem unfound_of_run {events : List Event} {g : Game} (loadless : g.Loadless events)
    (unfound : (g.run events).world.Unfound name) : g.world.Unfound name := by
  induction events generalizing g with
  | nil => exact unfound
  | cons event rest ih => exact unfound_of_after loadless.1 (ih loadless.2 unfound)

theorem away_run {events : List Event} {g : Game} (loadless : g.Loadless events)
    (unfound : (g.run events).world.Unfound name)
    (away : g.world.Away k name ∨ g.Sometime (UsesUpAt k name) events) :
    (g.run events).world.Away k name := by
  induction events generalizing g with
  | nil => exact away.resolve_right id
  | cons event rest ih =>
      have next := unfound_of_run loadless.2 unfound
      apply ih loadless.2 unfound
      by_cases used : g.UsesUpAt k name event
      · exact Or.inl (away_after next used)
      · rcases away with start | now | later
        · exact Or.inl ((leaves_after loadless.1 next used).away start)
        · exact absurd now used
        · exact Or.inr later

theorem lies_run {events : List Event} {g : Game} (loadless : g.Loadless events)
    (unfound : (g.run events).world.Unfound name) (lies : name ∈ g.world.lyingAt k)
    (spared : ¬ g.Sometime (UsesUpAt k name) events) :
    name ∈ (g.run events).world.lyingAt k := by
  induction events generalizing g with
  | nil => exact lies
  | cons event rest ih =>
      obtain ⟨now, later⟩ := not_or.mp spared
      have next := unfound_of_run loadless.2 unfound
      exact ih loadless.2 unfound ((leaves_after loadless.1 next now).lies lies) later

theorem lies_iff_spared {events : List Event} {g : Game} (loadless : g.Loadless events)
    (unfound : (g.run events).world.Unfound name)
    (lies : g.world.Unfound name → name ∈ g.world.lyingAt k) :
    name ∈ (g.run events).world.lyingAt k ↔ ¬ g.Sometime (UsesUpAt k name) events := by
  constructor
  · exact fun still used => (away_run loadless unfound (Or.inr used)).lies still
  · exact lies_run loadless unfound (lies (unfound_of_run loadless unfound))

end Loadless

/-- Some event of a run is like this, and nothing is loaded after it. -/
def Since (g : Game) (happens : Game → Event → Prop) : List Event → Prop
  | [] => False
  | event :: rest =>
      happens g event ∧ (g.after event).Loadless rest ∨ (g.after event).Since happens rest

/-- Each world that is loaded in a run is like this. -/
def LoadsOnly (g : Game) (P : World → Prop) : List Event → Prop
  | [] => True
  | event :: rest => (∀ w ∈ g.loaded? (g.request? event), P w) ∧ (g.after event).LoadsOnly P rest

instance decidableSince (g : Game) (happens : Game → Event → Prop)
    [∀ g event, Decidable (happens g event)] :
    (events : List Event) → Decidable (g.Since happens events)
  | [] => inferInstanceAs (Decidable False)
  | event :: rest =>
      have := decidableSince (g.after event) happens rest
      inferInstanceAs (Decidable (_ ∧ _ ∨ _))

instance decidableLoadsOnly (g : Game) (P : World → Prop) [DecidablePred P] :
    (events : List Event) → Decidable (g.LoadsOnly P events)
  | [] => inferInstanceAs (Decidable True)
  | event :: rest =>
      have := decidableLoadsOnly (g.after event) P rest
      inferInstanceAs (Decidable (_ ∧ _))

theorem since_iff_sometime {happens : Game → Event → Prop} {events : List Event} {g : Game}
    (loadless : g.Loadless events) : g.Since happens events ↔ g.Sometime happens events := by
  induction events generalizing g with
  | nil => exact Iff.rfl
  | cons event rest ih => exact or_congr (and_iff_left loadless.2) (ih loadless.2)

theorem loadless_of_deed {g : Game} {event : Event} {deed : Deed}
    (doing : g.deed? event = some deed) : g.loaded? (g.request? event) = none := by
  have line : ∀ intent : Intent, g.world.deed? intent = some deed →
      g.loaded? intent.request? = none := by
    intro intent does
    rw [(idle_or_quiet g.world intent).resolve_left (by simp [does])]
    rfl
  cases event with
  | line text fromPlayer => exact line _ doing
  | turn text => exact line _ doing
  | save => simp [deed?, intent?] at doing
  | load mode => simp [deed?, intent?] at doing
  | closing => simp [deed?, intent?] at doing

section Starting

variable {k : Nat} {room : Room} {name : String} (starting : name ∈ room.startingInventory)

include starting

theorem lies_iff_unused_loadless {events : List Event} {g : Game} (loadless : g.Loadless events)
    (stocked : g.world.Stocked) (there : (g.run events).world.rooms[k]? = some room)
    (unfound : (g.run events).world.Unfound name) :
    name ∈ room.inventory ↔ ¬ g.Since (UsesUpAt k name) events := by
  have lying : (g.run events).world.lyingAt k = room.inventory := by simp [lyingAt, there]
  rw [since_iff_sometime loadless, ← lying]
  apply lies_iff_spared loadless unfound
  obtain ⟨first, before, same⟩ := exists_room_of_plan (rooms_run events loadless).1 there
  exact stocked.lies before (same ▸ starting)

theorem lies_iff_unused {events : List Event} {g : Game}
    (stocked : g.Loadless events → g.world.Stocked) (loads : g.LoadsOnly Stocked events)
    (there : (g.run events).world.rooms[k]? = some room)
    (unfound : (g.run events).world.Unfound name) :
    name ∈ room.inventory ↔ ¬ g.Since (UsesUpAt k name) events := by
  induction events generalizing g with
  | nil =>
      have start := stocked g.loadless_nil
      exact lies_iff_unused_loadless starting g.loadless_nil start there unfound
  | cons event rest ih =>
      by_cases loadless : g.Loadless (event :: rest)
      · exact lies_iff_unused_loadless starting loadless (stocked loadless) there unfound
      · -- Some event loads a world: this one, or a later one before which nothing counts.
        have early : ¬ (g.UsesUpAt k name event ∧ (g.after event).Loadless rest) := by
          rintro ⟨⟨_, _, doing, _⟩, quiet⟩
          exact loadless ⟨loadless_of_deed doing, quiet⟩
        rw [Since, or_iff_right early]
        apply ih _ loads.2 there unfound
        intro quiet
        cases loaded : g.loaded? (g.request? event) with
        | none => exact absurd ⟨loaded, quiet⟩ loadless
        | some w => exact (loads.1 w loaded).marks (marks_loaded loaded)

end Starting

/-- Take a run from a world in which what a room has had from the start lies there until it is
found, as it does in all worlds that the run loads.  If the full description of a room has a
fragment about such an item, the item lies in the room exactly if it has not been used up there
since the last load. -/
theorem described_item_lies_iff (g : Game) (stocked : g.world.Stocked) (events : List Event)
    (loads : g.LoadsOnly Stocked events) {k : Nat} {room : Room}
    (there : (g.run events).world.rooms[k]? = some room) :
    (g.run events).world.describe room =
        " ".intercalate (((g.run events).world.fragments room).map (·.2)) ∧
      ∀ fragment ∈ (g.run events).world.fragments room, fragment.1 ∈ room.startingInventory →
        (fragment.1 ∈ room.inventory ↔ ¬ g.Since (UsesUpAt k fragment.1) events) := by
  refine ⟨World.describe_eq _ room, ?_⟩
  intro fragment shown starting
  exact lies_iff_unused starting (fun _ => stocked) loads there
    (unfound_of_fragment shown starting)

end Game

namespace PickleQuest

theorem fork_is_described_while_it_lies :
    let events := [Event.line "go north" true, .line "open drawer" true]
    game.world.Stocked ∧ game.LoadsOnly World.Stocked events ∧
      (game.run events).world.rooms[1]? = some kitchen ∧
      ("fork", "On the counter, a single fork gleams with purpose.") ∈
        (game.run events).world.fragments kitchen ∧
      "fork" ∈ kitchen.startingInventory ∧ "fork" ∈ kitchen.inventory := by
  intro events
  have facts : game.world.Stocked ∧ game.LoadsOnly World.Stocked events ∧
      (game.run events).world.rooms[1]? = some kitchen ∧
      ("fork", "On the counter, a single fork gleams with purpose.") ∈
        (game.run events).world.fragments kitchen ∧
      "fork" ∈ kitchen.startingInventory ∧ ¬ game.Since (Game.UsesUpAt 1 "fork") events := by
    decide +kernel
  obtain ⟨stocked, loads, there, shown, starting, unused⟩ := facts
  have lies := (game.described_item_lies_iff stocked events loads there).2 _ shown starting
  exact ⟨stocked, loads, there, shown, starting, lies.mpr unused⟩

/-- The flashlight in the drawer is made of the fork on the counter. -/
def forkInDrawer : Game :=
  { game with
    world := { world with
      items := items.map fun item =>
        if item.name = "drawer" then
          { item with
            interactions := .ofList [
              ("open", {
                  message := "You tug the drawer open."
                  transforms := [{ source := some "fork", result := some "flashlight" }] })] }
        else item } }

/-- After a load, the drawer is opened, and the fork is still described where it no longer is. -/
theorem fork_is_described_when_gone :
    let events := [Event.line "go north" true, .line "open drawer" true]
    ∃ loaded, forkInDrawer.save.1.load .resume = .ok loaded ∧ loaded.world.DistinctItems ∧
      loaded.world.Stocked ∧ loaded.Loadless events ∧
      ∃ room, (loaded.run events).world.currentRoom? = some room ∧
        "fork" ∈ room.startingInventory ∧
        ("fork", "On the counter, a single fork gleams with purpose.") ∈
          (loaded.run events).world.fragments room ∧
        "fork" ∉ room.inventory := by
  intro events
  have read := Game.read_after_save (g := forkInDrawer) (by decide +kernel) (by decide +kernel)
  have loads := Game.load_of_read read
  generalize start : forkInDrawer.save.1.withWorld
    { forkInDrawer.world.persisted with dirty := false } = loaded at loads
  have facts : loaded.world.DistinctItems ∧ loaded.world.Stocked ∧ loaded.Loadless events ∧
      ∃ room ∈ (loaded.run events).world.currentRoom?, "fork" ∈ room.startingInventory ∧
        ("fork", "On the counter, a single fork gleams with purpose.") ∈
          (loaded.run events).world.fragments room ∧
        "fork" ∉ room.inventory := by
    rw [← start]
    decide +kernel
  exact ⟨loaded, loads, facts⟩

end PickleQuest

end TextAdventure
