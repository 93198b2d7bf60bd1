import TextAdventure.Proofs.Changes
import TextAdventure.Proofs.Checkpoint

/-!
# The player is always somewhere

The place that the files of a world give the player may be any text.  A load puts the player into
a room exactly if that text names one, or if there is a room that goes by the default name
(`placed_settlePlayer_iff`).  From then on the player stays in a room: walking is the only way to
another place, it ends in a room of the world, and no event takes a room away.  So the replies to a
player who is nowhere are never given.
-/

set_option autoImplicit false

namespace TextAdventure

namespace World

/-- The player's place is a room, under its exact name. -/
def Placed (w : World) : Prop :=
  ∃ room, w.currentRoom? = some room ∧ room.name = w.player.location

theorem placed_iff {w : World} : w.Placed ↔ ∃ room ∈ w.rooms, room.name = w.player.location := by
  constructor
  · rintro ⟨room, here, named⟩
    exact ⟨room, List.mem_of_find?_eq_some here, named⟩
  · rintro ⟨room, member, named⟩
    exact exists_currentRoom member named

/-! ## Loading -/

/-- The world in the files of a directory, with the player where the files say. -/
def stored (t : FileTable) (directory : String) : Except StoreError World := do
  let items ← readValue t itemsOfJson? (joinPath directory itemsFile)
  let rooms ← readValue t roomsOfJson? (joinPath directory roomsFile)
  let player ← readValue t Player.ofJson? (joinPath directory playerFile)
  let objectives ← readValue t objectivesOfJson? (joinPath directory objectivesFile)
  return { rooms, items, objectives, player }

theorem load_eq_ok {t : FileTable} {directory : String} {w : World} :
    World.load t directory = .ok w ↔
      ∃ source, stored t directory = .ok source ∧ source.settlePlayer = w := by
  unfold World.load stored
  simp only [bind_eq_ok, pure, Except.pure, Except.ok.injEq]
  constructor
  · rintro ⟨items, hasItems, rooms, hasRooms, player, hasPlayer, objectives, hasObjectives, rfl⟩
    exact ⟨_, ⟨items, hasItems, rooms, hasRooms, player, hasPlayer, objectives, hasObjectives, rfl⟩,
      rfl⟩
  · rintro ⟨_, ⟨items, hasItems, rooms, hasRooms, player, hasPlayer, objectives, hasObjectives,
      rfl⟩, rfl⟩
    exact ⟨items, hasItems, rooms, hasRooms, player, hasPlayer, objectives, hasObjectives, rfl⟩

/-- There is a room to put the player in: one of the default name, or one that goes by the player's
location. -/
def HasStart (w : World) : Prop :=
  (∃ room ∈ w.rooms, room.name = defaultLocation) ∨
    ∃ room ∈ w.rooms, room.answersTo w.player.location = true

theorem placed_settlePlayer_iff (w : World) : w.settlePlayer.Placed ↔ w.HasStart := by
  rw [placed_iff, HasStart, settlePlayer]
  cases found : w.room? w.player.location with
  | some room =>
      have member : room ∈ w.rooms := room?_mem found
      have answers : room.answersTo w.player.location = true := by simpa using List.find?_some found
      exact iff_of_true ⟨room, member, rfl⟩ (Or.inr ⟨room, member, answers⟩)
  | none =>
      have unknown : ¬∃ room ∈ w.rooms, room.answersTo w.player.location = true := by
        simpa [room?] using found
      exact (or_iff_left unknown).symm

/-! ## Events -/

theorem placed_congr {w w' : World} (same : w'.standing = w.standing) :
    w'.Placed ↔ w.Placed := by
  have named : ∀ u : World, u.Placed ↔ u.player.location ∈ u.plan.map (·.name) := by
    intro u
    rw [placed_iff, map_name_plan, List.mem_map]
  rw [named, named, plan_of_standing same, location_of_standing same]

theorem Placed.marks {w w' : World} (placed : w.Placed) (marks : w.Marks w') : w'.Placed := by
  obtain ⟨won, watched, dirty, _, _, rfl⟩ := marks
  exact placed

/-- A walk ends in a room of the world; nothing else changes the player's place. -/
theorem Placed.alters {w w' : World} {v : Vocabulary} {intent : Intent} {response : Response}
    (placed : w.Placed) (alters : w.Alters v intent response w') : w'.Placed := by
  cases alters with
  | nothing => exact placed
  | hinted => exact placed
  | walked destination action can success =>
      obtain ⟨_, _, named⟩ := Option.bind_eq_some_iff.mp can.found
      exact currentRoom?_movePlayer (destination?_mem named)
  | took item action can success => exact (placed_congr (w.standing_pickUp item.name)).mpr placed
  | dropped item action can success =>
      exact (placed_congr (w.standing_putDown item.name)).mpr placed
  | did deed doing success => exact (placed_congr (w.standing_carryOutDeed deed)).mpr placed

/-! ## Replies -/

theorem roomView_ne_failure (w : World) (room : Room) (brief : Bool) (text : String) :
    w.roomView room brief ≠ .failure text := by
  intro same
  have success := w.status_roomView room brief
  rw [same] at success
  exact Status.noConfusion success

section Here

variable {w : World} {current : Room} (here : w.currentRoom? = some current) {v : Vocabulary}

include here

theorem status_look_around : (w.look v none).status = .success := by
  simp only [look, here]
  exact status_roomView w current false

theorem look_fails_iff {target : String} :
    w.look v (some target) = .failure Reply.noSuchRoom ↔
      (Scene.mk w v true).find? target = none := by
  simp only [look, here]
  cases found : (Scene.mk w v true).find? target with
  | none => simp
  | some name =>
      have noItem : Response.failure Reply.useInspect ≠ .failure Reply.noSuchRoom := by decide
      have tooFar : Response.failure Reply.tooFarToSee ≠ .failure Reply.noSuchRoom := by decide
      refine iff_of_false ?_ (Option.some_ne_none name)
      dsimp only
      cases w.destination? v name with
      | none => exact noItem
      | some room =>
          dsimp only
          split
          · exact w.roomView_ne_failure current false _
          · exact tooFar

theorem walk_fails_iff {target? : Option String} :
    (w.walk v target?).response = .failure Reply.cantDoThat ↔
      target?.bind (w.destination? v) = none := by
  cases found : target?.bind (w.destination? v) with
  | none => simp [walk_eq, found, refuse, answer]
  | some destination =>
      have already : Response.failure Reply.alreadyHere ≠ .failure Reply.cantDoThat := by decide
      have noExit : Response.failure Reply.cantGoThatWay ≠ .failure Reply.cantDoThat := by decide
      refine iff_of_false ?_ (Option.some_ne_none destination)
      obtain ⟨_, _, leads⟩ := Option.bind_eq_some_iff.mp found
      obtain ⟨entered, inside, _⟩ := currentRoom?_movePlayer (destination?_mem leads)
      simp only [walk_eq, found, here]
      cases w.unmetBlocker? destination with
      | some message => simp [answer, Response.prose, Response.failure, Response.remark]
      | none =>
          dsimp only
          split
          · exact already
          · split
            · exact noExit
            · simp only [enter, inside]
              exact roomView_ne_failure _ entered _ _

end Here

/-- Walking and looking as they are where the player is somewhere: each failure has another reason
than that. -/
structure Located (w : World) (v : Vocabulary) : Prop where
  placed : w.Placed
  looks : (w.look v none).status = .success
  sees : ∀ target, w.look v (some target) = .failure Reply.noSuchRoom ↔
    (Scene.mk w v true).find? target = none
  walks : ∀ target?, (w.walk v target?).response = .failure Reply.cantDoThat ↔
    target?.bind (w.destination? v) = none

theorem Placed.located {w : World} (placed : w.Placed) (v : Vocabulary) : w.Located v := by
  have ⟨_, here, _⟩ := placed
  exact ⟨placed, status_look_around here, fun _ => look_fails_iff here,
    fun _ => walk_fails_iff here⟩

end World

namespace Game

open World

/-- What is loaded in this mode, if anything, has a room to put the player in. -/
def LoadsStart (g : Game) (mode : LoadMode) : Prop :=
  ∀ source, stored g.files (g.directories.world mode) = .ok source → source.HasStart

theorem placed_of_load {g : Game} {mode : LoadMode} {w : World} (starts : g.LoadsStart mode)
    (read : World.load g.files (g.directories.world mode) = .ok w) : w.Placed := by
  obtain ⟨source, found, rfl⟩ := load_eq_ok.mp read
  exact source.placed_settlePlayer_iff.mpr (starts source found)

theorem placed_after {g : Game} {event : Event} (placed : g.world.Placed)
    (starts : ∀ mode, g.request? event = some (.load mode) → g.LoadsStart mode) :
    (g.after event).world.Placed := by
  refine holds_after placed (fun _ _ => Placed.marks) (fun _ _ _ => placed.alters) ?_
  intro w loads
  obtain ⟨mode, read, asked, found, rfl⟩ := loaded?_eq_some.mp loads
  have settled : read.Placed := placed_of_load (starts mode asked) found
  exact settled

/-- Each load of a run finds a room to put the player in, if it succeeds. -/
def KeepsToStarts (g : Game) (events : List Event) : Prop :=
  ∀ s event, (s, event) ∈ g.steps events →
    ∀ mode, s.request? event = some (.load mode) → s.LoadsStart mode

theorem look_succeeds {g : Game} (looks : (g.world.look g.vocabulary none).status = .success)
    {line : String} {fromPlayer : Bool} (action : (g.interpret line fromPlayer).1.action = .look)
    (plain : (g.interpret line fromPlayer).1.primaryTarget? = none) :
    (g.respond line fromPlayer).response.status = .success := by
  have same : (g.interpret line fromPlayer).2.world = g.world := rfl
  have speaks : (g.interpret line fromPlayer).2.vocabulary = g.vocabulary := rfl
  rw [g.respond_carryOut line fromPlayer (by rw [action]; decide)]
  simp only [carryOut, action, Action.group?, carryOutMovement, plain, same, speaks]
  exact looks

/-- After a load that finds a room to put the player in, and as long as all later loads do, the
player is in a room, a look at no other target succeeds, and neither looking nor walking fails for
want of a place to be. -/
theorem player_is_somewhere (g : Game) {mode : LoadMode} {loaded : Game}
    (read : g.load mode = .ok loaded) (starts : g.LoadsStart mode) (events : List Event)
    (later : loaded.KeepsToStarts events) :
    ∀ s ∈ loaded.states events, s.world.Located s.vocabulary ∧
      ∀ line fromPlayer, (s.interpret line fromPlayer).1.action = .look →
        (s.interpret line fromPlayer).1.primaryTarget? = none →
        (s.respond line fromPlayer).response.status = .success := by
  have placed : loaded.world.Placed := by
    rcases g.load_cases mode with ⟨w, found, done⟩ | ⟨error, _, failed⟩
    · rw [read] at done
      rw [Except.ok.inj done]
      have settled : w.Placed := placed_of_load starts found
      exact settled
    · rw [read] at failed
      contradiction
  have always := invariant_states events placed fun s event member before =>
    placed_after before (later s event member)
  intro s member
  have located := (always s member).located s.vocabulary
  exact ⟨located, fun _ _ => look_succeeds located.looks⟩

end Game

namespace PickleQuest

theorem savedStart_loadsStart : game.save.1.LoadsStart .resume := by
  intro source found
  have settled := Except.ok.inj <|
    (World.load_eq_ok.mpr ⟨source, found, rfl⟩).symm.trans load_savedStart
  rw [← source.placed_settlePlayer_iff, settled, World.placed_iff]
  decide +kernel

/-- From the saved start the player goes to the kitchen and looks around. -/
theorem saved_start_is_somewhere :
    let played := [Event.turn "go north", .line "look" true]
    ∃ loaded, game.save.1.load .resume = .ok loaded ∧
      (loaded.run played).world.player.location = "kitchen" ∧
      (∀ s ∈ loaded.states played, s.world.Located s.vocabulary) ∧
      ((loaded.run played).respond "look" true).response.status = .success := by
  intro played
  have loads : game.save.1.load .resume =
      .ok (game.save.1.withWorld { game.world.persisted with dirty := false }) :=
    Game.load_of_read load_savedStart
  refine ⟨_, loads, ?_⟩
  have somewhere := game.save.1.player_is_somewhere loads savedStart_loadsStart played
  generalize start :
    game.save.1.withWorld { game.world.persisted with dirty := false } = loaded at somewhere ⊢
  have walked : (∀ step ∈ loaded.steps played, step.1.request? step.2 = none) ∧
      (loaded.run played).world.player.location = "kitchen" ∧
      ((loaded.run played).interpret "look" true).1.action = .look ∧
      ((loaded.run played).interpret "look" true).1.primaryTarget? = none := by
    rw [← start]
    decide +kernel
  obtain ⟨quiet, kitchen, action, plain⟩ := walked
  have later : loaded.KeepsToStarts played := by
    intro s event member mode asked
    exact nomatch (quiet (s, event) member).symm.trans asked
  have states := somewhere later
  exact ⟨kitchen, fun s member => (states s member).1,
    (states _ (Game.run_mem_states played loaded)).2 "look" true action plain⟩

end PickleQuest

end TextAdventure
