import TextAdventure.Proofs.Locality
import TextAdventure.Proofs.OpenExits
import TextAdventure.Proofs.Whereabouts

/-!
# Where a resumed player is

The game keeps the player's room under its exact name.  A load looks a room of that name up once
more, by any name that the rooms go by, so a saved player comes back to the same room only if no
room listed before it has its name for an alias (`backInPlace_iff`).
-/

set_option autoImplicit false

namespace TextAdventure

namespace Room

/-- Whether a name is one of the room's aliases, ASCII case aside. -/
def HasAlias (room : Room) (name : String) : Prop :=
  ∃ other ∈ room.aliases, Text.sameName other name = true

instance (room : Room) (name : String) : Decidable (room.HasAlias name) :=
  inferInstanceAs (Decidable (∃ other ∈ room.aliases, Text.sameName other name = true))

theorem answersTo_iff_hasAlias {room : Room} {name : String}
    (named : Text.sameName room.name name = false) :
    room.answersTo name = true ↔ room.HasAlias name := by
  rw [answersTo, named, Bool.false_or, List.any_eq_true]
  exact Iff.rfl

end Room

namespace World

/-- No two rooms have the same name, ASCII case aside. -/
def ApartNames (w : World) : Prop :=
  w.rooms.Pairwise fun room other => Text.sameName room.name other.name = false

instance (w : World) : Decidable w.ApartNames := inferInstanceAs (Decidable (List.Pairwise _ _))

theorem apartNames_congr {w w' : World} (same : w'.plan = w.plan) :
    w'.ApartNames ↔ w.ApartNames := by
  have named : ∀ u : World, u.ApartNames ↔
      (u.plan.map (·.name)).Pairwise fun name other => Text.sameName name other = false := by
    intro u
    rw [map_name_plan, List.pairwise_map]
    exact Iff.rfl
  rw [named, named, same]

/-- The rooms that are listed before one. -/
def roomsBefore (w : World) (room : Room) : List Room :=
  w.rooms.takeWhile (· != room)

theorem ApartNames.before {w : World} (apart : w.ApartNames) {room other : Room}
    (member : room ∈ w.rooms) (earlier : other ∈ w.roomsBefore room) :
    Text.sameName other.name room.name = false := by
  unfold ApartNames at apart
  have related := rel_of_mem_before apart member earlier
  exact related

/-- The player is in a room, and no room listed before it has its name for an alias.  Or the player
is nowhere, under the default name, and no room answers to that. -/
inductive BackInPlace (w : World) : Prop
  | somewhere (room : Room) (here : w.currentRoom? = some room)
      (free : ∀ other ∈ w.roomsBefore room, ¬ other.HasAlias room.name) : BackInPlace w
  | nowhere (place : w.player.location = defaultLocation)
      (unknown : ∀ room ∈ w.rooms, room.answersTo defaultLocation = false) : BackInPlace w

/-! ## Looking up where the player is -/

/-- The player is in a room, or under the default name. -/
def Settled (w : World) : Prop :=
  w.Placed ∨ w.player.location = defaultLocation

theorem settled_settlePlayer (w : World) : w.settlePlayer.Settled := by
  cases found : w.room? w.player.location with
  | some room =>
      refine Or.inl (placed_iff.mpr ⟨room, room?_mem found, ?_⟩)
      simp [settlePlayer, found, updatePlayer]
  | none =>
      refine Or.inr ?_
      simp [settlePlayer, found, updatePlayer]

theorem location_settlePlayer (w : World) :
    w.settlePlayer.player.location =
      ((w.room? w.player.location).map (·.name)).getD defaultLocation := by
  cases found : w.room? w.player.location <;> simp [settlePlayer, found, updatePlayer]

/-- In a room, the first room that answers to its name is found before it, or it is the one. -/
theorem room?_here {w : World} {current : Room} (here : w.currentRoom? = some current) :
    w.room? w.player.location =
      ((w.roomsBefore current).find? (·.answersTo current.name)).or (some current) := by
  have named : current.name = w.player.location := currentRoom?_name here
  rw [← named]
  exact find?_eq_before_or (List.mem_of_find?_eq_some here) current.answersTo_name

theorem backInPlace_here_iff {w : World} {current : Room} (here : w.currentRoom? = some current) :
    w.BackInPlace ↔ ∀ other ∈ w.roomsBefore current, ¬ other.HasAlias current.name := by
  constructor
  · intro back
    cases back with
    | somewhere room found free =>
        rw [here] at found
        rw [Option.some.inj found]
        exact free
    | nowhere place unknown =>
        have named : current.name = w.player.location := currentRoom?_name here
        have answers := current.answersTo_name
        rw [named, place, unknown current (List.mem_of_find?_eq_some here)] at answers
        contradiction
  · exact .somewhere current here

/-- In a room, both ways to read the player's place agree, and a load keeps it, exactly if no room
before this one has its name for an alias. -/
theorem found_here_iff {w : World} {current : Room} (here : w.currentRoom? = some current)
    (apart : w.ApartNames) :
    (w.room? w.player.location = w.currentRoom? ↔ w.BackInPlace) ∧
      (w.settlePlayer.player.location = w.player.location ↔ w.BackInPlace) := by
  have member : current ∈ w.rooms := List.mem_of_find?_eq_some here
  have named : current.name = w.player.location := currentRoom?_name here
  have differs : ∀ other ∈ w.roomsBefore current,
      Text.sameName other.name current.name = false :=
    fun other earlier => apart.before member earlier
  rw [location_settlePlayer, room?_here here, here, backInPlace_here_iff here]
  cases early : (w.roomsBefore current).find? (·.answersTo current.name) with
  | none =>
      have free : ∀ other ∈ w.roomsBefore current, ¬ other.HasAlias current.name := by
        intro other earlier
        rw [← Room.answersTo_iff_hasAlias (differs other earlier)]
        exact List.find?_eq_none.mp early other earlier
      exact ⟨iff_of_true Option.none_or free, iff_of_true named free⟩
  | some captor =>
      have earlier : captor ∈ w.roomsBefore current := List.mem_of_find?_eq_some early
      have answers := List.find?_some early
      have alias_ : captor.HasAlias current.name :=
        (Room.answersTo_iff_hasAlias (differs captor earlier)).mp answers
      have captured : ¬ ∀ other ∈ w.roomsBefore current, ¬ other.HasAlias current.name :=
        fun free => free captor earlier alias_
      refine ⟨iff_of_false ?_ captured, iff_of_false ?_ captured⟩
      · intro same
        rw [Option.some_or] at same
        exact ne_of_mem_before earlier (Option.some.inj same)
      · intro same
        have equal : captor.name = current.name := same.trans named.symm
        have apart := differs captor earlier
        rw [equal, Text.sameName_refl] at apart
        contradiction

/-- A player who is nowhere stays so exactly if no room answers to the default name. -/
theorem found_nowhere_iff {w : World} (unplaced : ¬ w.Placed)
    (place : w.player.location = defaultLocation) :
    (w.room? w.player.location = w.currentRoom? ↔ w.BackInPlace) ∧
      (w.settlePlayer.player.location = w.player.location ↔ w.BackInPlace) := by
  have unnamed : ∀ room ∈ w.rooms, room.name ≠ w.player.location :=
    fun room member named => unplaced (placed_iff.mpr ⟨room, member, named⟩)
  have nowhere : w.currentRoom? = none := by
    apply List.find?_eq_none.mpr
    intro room member
    simpa using unnamed room member
  rw [location_settlePlayer, nowhere, place]
  cases found : w.room? defaultLocation with
  | none =>
      have back : w.BackInPlace := by
        refine .nowhere place ?_
        intro room member
        simpa using List.find?_eq_none.mp found room member
      exact ⟨iff_of_true rfl back, iff_of_true rfl back⟩
  | some room =>
      have member : room ∈ w.rooms := room?_mem found
      have away : ¬ w.BackInPlace := by
        intro back
        cases back with
        | somewhere other here _ => simp [nowhere] at here
        | nowhere _ unknown =>
            have answers : room.answersTo defaultLocation = true := by
              simpa using List.find?_some found
            rw [unknown room member] at answers
            contradiction
      refine ⟨iff_of_false (Option.some_ne_none room) away, iff_of_false ?_ away⟩
      intro same
      exact unnamed room member (same.trans place.symm)

theorem backInPlace_iff {w : World} (settled : w.Settled) (apart : w.ApartNames) :
    (w.room? w.player.location = w.currentRoom? ↔ w.BackInPlace) ∧
      (w.settlePlayer.player.location = w.player.location ↔ w.BackInPlace) := by
  by_cases placed : w.Placed
  · obtain ⟨current, here, _⟩ := placed
    exact found_here_iff here apart
  · exact found_nowhere_iff placed (settled.resolve_left placed)

/-! ## Events -/

theorem settled_congr {w w' : World} (same : w'.standing = w.standing) :
    w'.Settled ↔ w.Settled := by
  rw [Settled, Settled, placed_congr same, location_of_standing same]

theorem Settled.marks {w w' : World} (settled : w.Settled) (marks : w.Marks w') : w'.Settled := by
  obtain ⟨won, watched, dirty, _, _, rfl⟩ := marks
  exact settled

theorem Settled.alters {w w' : World} {v : Vocabulary} {intent : Intent} {response : Response}
    (settled : w.Settled) (alters : w.Alters v intent response w') : w'.Settled := by
  cases alters with
  | nothing => exact settled
  | hinted => exact settled
  | walked destination action can success =>
      obtain ⟨_, _, named⟩ := Option.bind_eq_some_iff.mp can.found
      exact Or.inl (currentRoom?_movePlayer (destination?_mem named))
  | took item _ _ _ => exact (settled_congr (w.standing_pickUp item.name)).mpr settled
  | dropped item _ _ _ => exact (settled_congr (w.standing_putDown item.name)).mpr settled
  | did deed _ _ => exact (settled_congr (w.standing_carryOutDeed deed)).mpr settled

end World

namespace Game

open World

/-- Each load of a run, if it succeeds, gives a world where no two rooms have the same name. -/
def KeepsApart (g : Game) (events : List Event) : Prop :=
  ∀ s event, (s, event) ∈ g.steps events →
    ∀ w, s.loaded? (s.request? event) = some w → w.ApartNames

theorem settled_after {g : Game} {event : Event} (settled : g.world.Settled) :
    (g.after event).world.Settled := by
  refine holds_after settled (fun _ _ => Settled.marks) (fun _ _ _ => settled.alters) ?_
  intro w loads
  obtain ⟨mode, read, _, found, rfl⟩ := loaded?_eq_some.mp loads
  obtain ⟨source, _, rfl⟩ := load_eq_ok.mp found
  exact source.settled_settlePlayer

theorem apartNames_after {g : Game} {event : Event} (apart : g.world.ApartNames)
    (loads : ∀ w, g.loaded? (g.request? event) = some w → w.ApartNames) :
    (g.after event).world.ApartNames := by
  refine holds_after apart ?marks ?alters loads
  case marks =>
      intro before after distinct marks
      rw [ApartNames, marks.rooms]
      exact distinct
  case alters =>
      intro intent response w alters
      obtain ⟨names, rooms⟩ := alters.rooms
      exact (apartNames_congr (plan_of_roomsWith rooms)).mpr apart

theorem settled_of_load {g loaded : Game} {mode : LoadMode} (read : g.load mode = .ok loaded) :
    loaded.world.Settled := by
  rcases g.load_cases mode with ⟨w, found, done⟩ | ⟨error, _, failed⟩
  · rw [read] at done
    obtain ⟨source, _, rfl⟩ := load_eq_ok.mp found
    rw [Except.ok.inj done]
    exact source.settled_settlePlayer
  · rw [read] at failed
    contradiction

/-- Resuming right after a save that succeeds puts the player where the files say. -/
theorem resume_location {g : Game} (success : g.save.2 = none) :
    ∃ resumed, g.save.1.load .resume = .ok resumed ∧
      resumed.world.player.location = g.world.settlePlayer.player.location := by
  rcases g.save_cases with ⟨files, written, saved⟩ | ⟨files, error, _, failed⟩
  · rw [saved]
    exact ⟨_, load_of_read (load_saveWorld written), rfl⟩
  · rw [failed] at success
    contradiction

/-- After a load of a world where no two rooms have the same name, and as long as all later loads
give such worlds, the first room that answers to the player's place is the room of that very name
exactly if no room listed before it has that name for an alias, or if the player is nowhere and no
room answers to the default name.  Exactly then a save that succeeds is resumed at the same
place. -/
theorem resuming_keeps_place_iff (g : Game) {mode : LoadMode} {loaded : Game}
    (read : g.load mode = .ok loaded) (apart : loaded.world.ApartNames) (events : List Event)
    (later : loaded.KeepsApart events) :
    ∀ s ∈ loaded.states events,
      (s.world.room? s.world.player.location = s.world.currentRoom? ↔ s.world.BackInPlace) ∧
      (s.save.2 = none → ∃ resumed, s.save.1.load .resume = .ok resumed ∧
        (resumed.world.player.location = s.world.player.location ↔ s.world.BackInPlace)) := by
  have always : ∀ s ∈ loaded.states events, s.world.Settled ∧ s.world.ApartNames := by
    refine invariant_states (P := fun s => s.world.Settled ∧ s.world.ApartNames) events
      ⟨settled_of_load read, apart⟩ ?_
    intro s event step ⟨settled, distinct⟩
    exact ⟨settled_after settled, apartNames_after distinct (later s event step)⟩
  intro s reached
  obtain ⟨settled, distinct⟩ := always s reached
  obtain ⟨agrees, keeps⟩ := backInPlace_iff settled distinct
  refine ⟨agrees, ?_⟩
  intro success
  obtain ⟨resumed, loads, place⟩ := resume_location success
  exact ⟨resumed, loads, by rw [place]; exact keeps⟩

end Game

namespace PickleQuest

/-- From the saved start the player goes to the living room, and is resumed there. -/
theorem living_room_is_resumed :
    let loaded := game.save.1.withWorld { game.world.persisted with dirty := false }
    game.save.1.load .resume = .ok loaded ∧ loaded.world.ApartNames ∧
      (loaded.run [.turn "go east"]).save.2 = none ∧
      ∃ resumed, (loaded.run [.turn "go east"]).save.1.load .resume = .ok resumed ∧
        resumed.world.player.location = "living room" := by
  intro loaded
  have start : loaded = game.save.1.withWorld { world with dirty := false } := rfl
  have apart : loaded.world.ApartNames := by
    rw [start]
    decide +kernel
  have success : (loaded.run [.turn "go east"]).save.2 = none := by
    rw [start]
    decide +kernel
  have walked : loaded.Loadless [.turn "go east"] ∧
      (loaded.run [.turn "go east"]).world.player.location = "living room" ∧
      (loaded.run [.turn "go east"]).world.currentRoom?.any (fun room =>
        decide (∀ other ∈ (loaded.run [.turn "go east"]).world.roomsBefore room,
          ¬ other.HasAlias room.name)) = true := by
    rw [start]
    decide +kernel
  obtain ⟨loadless, place, free⟩ := walked
  have later : loaded.KeepsApart [.turn "go east"] := by
    intro s event step w loads
    rw [loadless.of_mem_steps step] at loads
    nomatch loads
  obtain ⟨_, resumes⟩ := Game.resuming_keeps_place_iff game.save.1 resume_savedStart apart _ later _
    (Game.run_mem_states [.turn "go east"] loaded)
  obtain ⟨resumed, loads, same⟩ := resumes success
  obtain ⟨room, here, alone⟩ := (Option.any_eq_true _ _).mp free
  have back := World.BackInPlace.somewhere room here (of_decide_eq_true alone)
  exact ⟨resume_savedStart, apart, success, resumed, loads, (same.mpr back).trans place⟩

/-- The adventure where the kitchen is also called by the name of the living room, and the player
starts in the lounge, as the living room is called. -/
def loungeStart : World :=
  { world with
    rooms := rooms.map fun room =>
      if room.name = "kitchen" then { room with aliases := ["living room"] } else room
    player := { player with location := "lounge" } }

def loungeGame : Game :=
  { game with files := (saveWorld {} game.directories.data loungeStart).1 }

/-- The player starts in the living room and is resumed in the kitchen. -/
theorem lounge_is_resumed_in_the_kitchen :
    ∃ loaded resumed, loungeGame.load .new = .ok loaded ∧ loaded.world.ApartNames ∧
      loaded.world.player.location = "living room" ∧
      (loaded.world.room? "living room").map (·.name) = some "kitchen" ∧
      loaded.save.2 = none ∧ loaded.save.1.load .resume = .ok resumed ∧
      resumed.world.player.location = "kitchen" := by
  have written : saveWorld {} game.directories.data loungeStart = (loungeGame.files, none) :=
    Prod.ext rfl (by decide +kernel)
  have loads : loungeGame.load .new = .ok (loungeGame.withWorld
      { loungeStart.persisted.settlePlayer with dirty := false }) :=
    Game.load_of_read (World.load_saveWorld written)
  generalize start : loungeGame.withWorld
    { loungeStart.persisted.settlePlayer with dirty := false } = loaded at loads
  have facts : loaded.world.ApartNames ∧ loaded.world.player.location = "living room" ∧
      (loaded.world.room? "living room").map (·.name) = some "kitchen" ∧ loaded.save.2 = none ∧
      loaded.world.settlePlayer.player.location = "kitchen" := by
    rw [← start]
    decide +kernel
  obtain ⟨apart, place, captured, success, moved⟩ := facts
  obtain ⟨resumed, resumes, same⟩ := Game.resume_location success
  exact ⟨loaded, resumed, loads, apart, place, captured, success, resumes, same.trans moved⟩

end PickleQuest

end TextAdventure
