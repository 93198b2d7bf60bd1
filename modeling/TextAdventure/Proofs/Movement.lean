import Mathlib.Data.List.Nodup
import Mathlib.Logic.Relation
import TextAdventure.Proofs.Standing

/-!
# How the player gets from room to room

The player's place changes in one way only: by a walk through an exit of the current room, into
another room whose blockers are lifted.  Nothing in the world but the player's place and the marks
of that visit changes with it.  A run follows the exits of the plan, which no line changes.
-/

set_option autoImplicit false

namespace TextAdventure

namespace World

def DistinctRooms (w : World) : Prop := (w.rooms.map (·.name)).Nodup

instance (w : World) : Decidable w.DistinctRooms := inferInstanceAs (Decidable (List.Nodup _))

/-- What a walk from one room into another one needs, and all that it changes. -/
structure LegalWalk (before : World) (current destination : Room) (after : World) : Prop where
  start : before.currentRoom? = some current
  exit : destination.name ∈ current.exits
  known : destination ∈ before.rooms
  away : destination.name ≠ current.name
  unblocked : ∀ blocker ∈ destination.blockers, ∀ objective,
    before.objective? blocker.objective = some objective → before.complete objective = true
  arrived : after.currentRoom? = some destination
  rest : ∃ won dirty, after =
    { before with
      player := { before.player with
        location := destination.name
        visitedRooms :=
          if destination.name ∈ before.player.visitedRooms then before.player.visitedRooms
          else before.player.visitedRooms ++ [destination.name]
        won := won }
      dirty := dirty }

theorem currentRoom?_eq_of_distinct {w : World} (distinct : w.DistinctRooms) {room : Room}
    (member : room ∈ w.rooms) (here : room.name = w.player.location) :
    w.currentRoom? = some room := by
  obtain ⟨current, found, named⟩ := exists_currentRoom member here
  have same : current = room := List.inj_on_of_nodup_map distinct
    (List.mem_of_find?_eq_some found) member (named.trans here.symm)
  rw [found, same]

theorem complete_of_unblocked {w : World} {room : Room} (unblocked : w.unmetBlocker? room = none)
    {blocker : Blocker} (member : blocker ∈ room.blockers) {objective : Objective}
    (named : w.objective? blocker.objective = some objective) : w.complete objective = true := by
  have none_blocks := Option.map_eq_none_iff.mp unblocked
  have lifted := List.find?_eq_none.mp none_blocks blocker member
  simpa [blocks, named] using lifted

/-- A walk that succeeds is legal, also after the victory has been checked. -/
theorem CanWalk.legal {w : World} {v : Vocabulary} {target? : Option String} {destination : Room}
    (can : w.CanWalk v target? destination) (distinct : w.DistinctRooms) :
    ∃ current, w.LegalWalk current destination (w.movePlayer destination.name).checkVictory := by
  obtain ⟨current, here, apart, leads⟩ := can.exit
  obtain ⟨_, _, named⟩ := Option.bind_eq_some_iff.mp can.found
  have known : destination ∈ w.rooms := destination?_mem named
  have visited : (w.movePlayer destination.name).player.visitedRooms =
      if destination.name ∈ w.player.visitedRooms then w.player.visitedRooms
      else w.player.visitedRooms ++ [destination.name] := by
    simp [movePlayer, touch, updatePlayer, Player.visit, addName]
  have moved : ∃ won dirty, (w.movePlayer destination.name).checkVictory =
      { w with
        player := { w.player with
          location := destination.name
          visitedRooms :=
            if destination.name ∈ w.player.visitedRooms then w.player.visitedRooms
            else w.player.visitedRooms ++ [destination.name]
          won := won }
        dirty := dirty } := by
    rw [← visited]
    rcases (w.movePlayer destination.name).checkVictory_cases with still | won
    · exact ⟨w.player.won, true, still⟩
    · exact ⟨true, true, won⟩
  refine ⟨current, here, List.contains_iff_mem.mp leads, known, ?_, ?_, ?_, moved⟩
  · intro same
    simp [isHere, same] at apart
  · intro blocker member objective named
    exact complete_of_unblocked can.unblocked member named
  · obtain ⟨won, dirty, same⟩ := moved
    rw [same]
    refine currentRoom?_eq_of_distinct ?_ ?_ rfl
    · exact distinct
    · exact known

/-! ## Exits -/

/-- Whether a room of the first name has an exit to the second. -/
def Leads (w : World) (first second : String) : Prop :=
  ∃ room ∈ w.plan, room.name = first ∧ second ∈ room.exits

theorem leads_congr {w w' : World} (same : w'.plan = w.plan) : w'.Leads = w.Leads := by
  unfold Leads
  rw [same]

theorem distinctRooms_congr {w w' : World} (same : w'.plan = w.plan) :
    w'.DistinctRooms ↔ w.DistinctRooms := by
  rw [DistinctRooms, DistinctRooms, ← map_name_plan w, ← map_name_plan w', same]

theorem CanWalk.leads {w : World} {v : Vocabulary} {target? : Option String} {destination : Room}
    (can : w.CanWalk v target? destination) : w.Leads w.player.location destination.name := by
  obtain ⟨current, here, _, leads⟩ := can.exit
  have named : current.name = w.player.location := currentRoom?_name here
  exact ⟨{ current with inventory := [] },
    List.mem_map.mpr ⟨current, List.mem_of_find?_eq_some here, rfl⟩, named,
    List.contains_iff_mem.mp leads⟩

end World

namespace Game

open World

/-! ## One line -/

theorem walk_of_moved {g : Game} {line : String} {fromPlayer : Bool}
    (loadless : g.loaded? (g.request? (.line line fromPlayer)) = none)
    (moved : (g.respond line fromPlayer).state.world.player.location ≠ g.world.player.location) :
    ∃ destination,
      g.world.CanWalk g.vocabulary (g.interpret line fromPlayer).1.primaryTarget? destination ∧
      (g.respond line fromPlayer).response.status = .success ∧
      (g.respond line fromPlayer).state.world =
        (g.world.movePlayer destination.name).checkVictory := by
  rcases g.respond_standing_cases line fromPlayer loadless with same | ⟨w, still, same⟩ | walked
  · rw [same] at moved
    exact absurd rfl moved
  · rw [same, w.checkVictory_keeps.2.1, location_of_standing still] at moved
    exact absurd rfl moved
  · exact walked

theorem plan_line {g : Game} {line : String} {fromPlayer : Bool}
    (loadless : g.loaded? (g.request? (.line line fromPlayer)) = none) :
    (g.after (.line line fromPlayer)).world.plan = g.world.plan := by
  rw [after]
  rcases g.respond_standing_cases line fromPlayer loadless with
    same | ⟨w, still, same⟩ | ⟨destination, _, _, same⟩
  · rw [same]
  · rw [same, w.checkVictory_keeps.1, plan_of_standing still]
  · rw [same, (g.world.movePlayer destination.name).checkVictory_keeps.1, plan_movePlayer]

theorem leads_line {g : Game} {line : String} {fromPlayer : Bool}
    (loadless : g.loaded? (g.request? (.line line fromPlayer)) = none) :
    (g.after (.line line fromPlayer)).world.player.location = g.world.player.location ∨
      g.world.Leads g.world.player.location
        (g.after (.line line fromPlayer)).world.player.location := by
  rw [after]
  by_cases moved : (g.respond line fromPlayer).state.world.player.location = g.world.player.location
  · exact Or.inl moved
  · obtain ⟨destination, can, _, same⟩ := walk_of_moved loadless moved
    have arrived : (g.respond line fromPlayer).state.world.player.location = destination.name := by
      rw [same, (g.world.movePlayer destination.name).checkVictory_keeps.2.1]
      rfl
    rw [arrived]
    exact Or.inr can.leads

/-! ## Runs -/

theorem plan_location_after {g : Game} {event : Event}
    (loadless : g.loaded? (g.request? event) = none) :
    (g.after event).world.plan = g.world.plan ∧
      ((g.after event).world.player.location = g.world.player.location ∨
        g.world.Leads g.world.player.location (g.after event).world.player.location) := by
  cases event with
  | line line fromPlayer => exact ⟨plan_line loadless, leads_line loadless⟩
  | turn line =>
      obtain ⟨plan, location⟩ := (g.after (.line line true)).rollCredits_keeps
      rw [after_turn, plan, location]
      exact ⟨plan_line loadless, leads_line loadless⟩
  | save => exact ⟨plan_of_standing g.standing_save, Or.inl (location_of_standing g.standing_save)⟩
  | load mode =>
      rw [load_of_loadless loadless]
      exact ⟨rfl, Or.inl rfl⟩
  | closing =>
      exact ⟨plan_of_standing g.standing_closing, Or.inl (location_of_standing g.standing_closing)⟩

theorem plan_path_run (events : List Event) {g : Game} (loadless : g.Loadless events) :
    (g.run events).world.plan = g.world.plan ∧
      Relation.ReflTransGen g.world.Leads g.world.player.location
        (g.run events).world.player.location := by
  induction events generalizing g with
  | nil => exact ⟨rfl, .refl⟩
  | cons event rest ih =>
      obtain ⟨plan, step⟩ := plan_location_after loadless.1
      obtain ⟨later, path⟩ := ih loadless.2
      rw [leads_congr plan] at path
      refine ⟨later.trans plan, ?_⟩
      rcases step with same | leads
      · exact same ▸ path
      · exact path.head leads

/-- If the rooms have distinct names, a line that loads nothing either leaves the player in place or
succeeds with a legal walk.  In a run that loads nothing the rooms keep their names, and the player
gets only where exits lead. -/
theorem movement_is_legal (g : Game) (distinct : g.world.DistinctRooms) :
    (∀ line fromPlayer, g.loaded? (g.request? (.line line fromPlayer)) = none →
      (g.respond line fromPlayer).state.world.player.location ≠ g.world.player.location →
      (g.respond line fromPlayer).response.status = .success ∧
        ∃ current destination,
          g.world.LegalWalk current destination (g.respond line fromPlayer).state.world) ∧
    ∀ events, g.Loadless events →
      (g.run events).world.DistinctRooms ∧
        Relation.ReflTransGen g.world.Leads g.world.player.location
          (g.run events).world.player.location := by
  constructor
  · intro line fromPlayer loadless moved
    obtain ⟨destination, can, success, same⟩ := walk_of_moved loadless moved
    obtain ⟨current, legal⟩ := can.legal distinct
    rw [same]
    exact ⟨success, current, destination, legal⟩
  · intro events loadless
    obtain ⟨plan, path⟩ := plan_path_run events loadless
    exact ⟨(distinctRooms_congr plan).mpr distinct, path⟩

end Game

namespace PickleQuest

/-- The player stands in the kitchen with the flashlight lit, so that the pantry is open. -/
def litKitchen : Game :=
  { game with
    world := { world with
      objectives := [light.record "flashlight" "turn on", liberate, savor]
      player := { player with location := "kitchen" } } }

theorem pantry_is_entered_legally :
    let entered := (litKitchen.respond "go east" true).state
    litKitchen.world.DistinctRooms ∧ entered.world.player.location = "pantry" ∧
      (∃ current destination, litKitchen.world.LegalWalk current destination entered.world) ∧
      Relation.ReflTransGen litKitchen.world.Leads "kitchen" entered.world.player.location := by
  dsimp only
  have walk : litKitchen.world.DistinctRooms ∧
      litKitchen.loaded? (litKitchen.request? (.line "go east" true)) = none ∧
      (litKitchen.respond "go east" true).state.world.player.location = "pantry" ∧
      litKitchen.world.player.location = "kitchen" := by
    decide +kernel
  obtain ⟨distinct, loadless, arrived, started⟩ := walk
  have moved : (litKitchen.respond "go east" true).state.world.player.location ≠
      litKitchen.world.player.location := by
    rw [arrived, started]
    decide
  obtain ⟨walks, paths⟩ := litKitchen.movement_is_legal distinct
  obtain ⟨_, walked⟩ := walks "go east" true loadless moved
  obtain ⟨_, path⟩ := paths [.line "go east" true]
    (Game.loadless_cons.mpr ⟨loadless, Game.loadless_nil _⟩)
  rw [started, Game.run_cons, Game.run_nil, Game.after] at path
  exact ⟨distinct, arrived, walked, path⟩

end PickleQuest

end TextAdventure
