import TextAdventure.Proofs.Discovery
import TextAdventure.Proofs.Locality
import TextAdventure.Proofs.Whereabouts

/-!
# What is shown as left in a room

A room is described with the known, collectible items that lie in it, under a header that says that
the player dropped them.  An item gets there in one of three ways: it is dropped, it becomes known
while it lies in the room, or a loaded world has it there.  Only the first is what the header says.
-/

set_option autoImplicit false

namespace TextAdventure

theorem findIdx?_updateFirst {α : Type} {p q : α → Bool} {change : α → α}
    (kept : ∀ a, q (change a) = q a) (l : List α) :
    (updateFirst p change l).findIdx? q = l.findIdx? q := by
  induction l with
  | nil => rfl
  | cons a rest ih =>
      by_cases found : p a = true
      · simp [updateFirst, found, List.findIdx?_cons, kept]
      · simp [updateFirst, found, List.findIdx?_cons, ih]

namespace World

/-! ## What lies in a room -/

/-- What lies in the room at a place in the list of rooms. -/
def lyingAt (w : World) (k : Nat) : List String :=
  (w.rooms[k]?.map (·.inventory)).getD []

/-- An item of this name lies in the room at this place, can be carried, and is known. -/
structure LiesKnown (w : World) (k : Nat) (name : String) : Prop where
  lies : name ∈ w.lyingAt k
  known : w.IsKnown name

theorem currentRoom?_eq {w : World} {k : Nat} (here : w.currentPlace? = some k) :
    w.currentRoom? = w.rooms[k]? := by
  unfold currentPlace? at here
  rw [currentRoom?, List.find?_eq_bind_findIdx?_getElem?, here]
  rfl

theorem exists_currentPlace {w : World} {room : Room} (here : w.currentRoom? = some room) :
    ∃ k, w.currentPlace? = some k ∧ w.rooms[k]? = some room := by
  rw [currentRoom?, List.find?_eq_bind_findIdx?_getElem?] at here
  exact Option.bind_eq_some_iff.mp here

theorem lyingAt_here {w : World} {k : Nat} (here : w.currentPlace? = some k) :
    w.lyingAt k = w.lyingHere := by
  rw [lyingHere_eq, currentRoom?_eq here, lyingAt]

theorem Rearranges.currentPlace? {before after : World} (moved : before.Rearranges after) :
    after.currentPlace? = before.currentPlace? := by
  unfold World.currentPlace?
  rw [moved.location, moved.rooms, roomsWith]
  apply findIdx?_updateFirst
  intro room
  rfl

/-- Only in the current room can more lie than before. -/
theorem Rearranges.mem_lyingAt {before after : World} (moved : before.Rearranges after) {k : Nat}
    {name : String} (lies : name ∈ after.lyingAt k) :
    name ∈ before.lyingAt k ∨ before.currentPlace? = some k ∧ name ∈ after.lyingHere := by
  by_cases here : before.currentPlace? = some k
  · rw [lyingAt_here (moved.currentPlace?.trans here)] at lies
    exact Or.inr ⟨here, lies⟩
  · rw [lyingAt, getElem?_of_roomsWith moved.rooms here] at lies
    exact Or.inl lies

theorem Rearranges.mem_of_fewer {before after : World} (moved : before.Rearranges after)
    (fewer : ∀ name ∈ after.lyingHere, name ∈ before.lyingHere) {k : Nat} {name : String}
    (lies : name ∈ after.lyingAt k) : name ∈ before.lyingAt k := by
  rcases moved.mem_lyingAt lies with old | ⟨here, new⟩
  · exact old
  · rw [lyingAt_here here]
    exact fewer name new

/-- The items that a description lists are those that lie there and are known. -/
theorem liesKnown_of_listed {w : World} {k : Nat} {room : Room}
    (there : w.rooms[k]? = some room) {item : Item} (listed : item ∈ w.droppedItems room) :
    w.LiesKnown k item.name := by
  obtain ⟨held, shown⟩ := List.mem_filter.mp listed
  obtain ⟨name, lies, record⟩ := List.mem_filterMap.mp held
  have named : item.name = name := record?_name record
  rw [named]
  refine ⟨?_, isKnown_iff.mpr ⟨item, record, Bool.and_eq_true_iff.mp shown⟩⟩
  simpa [lyingAt, there] using lies

theorem listed_of_liesKnown {w : World} {k : Nat} {room : Room}
    (there : w.rooms[k]? = some room) {name : String} (shown : w.LiesKnown k name) :
    ∃ item ∈ w.droppedItems room, item.name = name := by
  obtain ⟨item, record, collectible, discovered⟩ := isKnown_iff.mp shown.known
  have lies : name ∈ room.inventory := by simpa [lyingAt, there] using shown.lies
  have named : item.name = name := record?_name record
  refine ⟨item, List.mem_filter.mpr ⟨List.mem_filterMap.mpr ⟨name, lies, record⟩, ?_⟩, named⟩
  simp [collectible, discovered]

/-- No description of a room lists an item. -/
def NothingLeft (w : World) : Prop := ∀ room ∈ w.rooms, w.droppedItems room = []

instance (w : World) : Decidable w.NothingLeft := inferInstanceAs (Decidable (∀ room ∈ _, _))

theorem NothingLeft.not_liesKnown {w : World} (bare : w.NothingLeft) {k : Nat} {name : String} :
    ¬ w.LiesKnown k name := by
  intro shown
  cases there : w.rooms[k]? with
  | none =>
      have nothing : w.lyingAt k = [] := by simp [lyingAt, there]
      exact absurd (nothing ▸ shown.lies) List.not_mem_nil
  | some room =>
      obtain ⟨item, listed, _⟩ := listed_of_liesKnown there shown
      rw [bare room (List.mem_of_getElem? there)] at listed
      exact absurd listed List.not_mem_nil

theorem liesKnown_congr {before after : World} (rooms : after.rooms = before.rooms)
    (items : after.items = before.items) {k : Nat} {name : String} :
    after.LiesKnown k name ↔ before.LiesKnown k name := by
  have lying : after.lyingAt k = before.lyingAt k := by rw [lyingAt, lyingAt, rooms]
  have known : after.IsKnown name ↔ before.IsKnown name := by
    rw [IsKnown, IsKnown, flags?, flags?, record?, record?, items]
  constructor
  · intro shown
    exact ⟨lying ▸ shown.lies, known.mp shown.known⟩
  · intro shown
    exact ⟨lying ▸ shown.lies, known.mpr shown.known⟩

theorem liesKnown_movePlayer {w : World} {room : String} {k : Nat} {name : String} :
    (w.movePlayer room).LiesKnown k name ↔ w.LiesKnown k name := by
  apply liesKnown_congr
  · rfl
  · rfl

theorem liesKnown_marks {before after : World} (marks : before.Marks after) {k : Nat}
    {name : String} : after.LiesKnown k name ↔ before.LiesKnown k name := by
  obtain ⟨won, watched, dirty, _, _, rfl⟩ := marks
  apply liesKnown_congr
  · rfl
  · rfl

/-! ## How an item comes to be shown -/

/-- What becomes known without being moved lies where it lay. -/
theorem Learns.liesKnown {names : List String} {before after : World}
    (learns : Learns names before after) (moved : before.Rearranges after)
    (fewer : ∀ name ∈ after.lyingHere, name ∈ before.lyingHere) {k : Nat} {name : String}
    (shown : after.LiesKnown k name) :
    before.LiesKnown k name ∨
      name ∈ before.lyingAt k ∧ before.flags? name = some (true, false) ∧ name ∈ names := by
  have lay := moved.mem_of_fewer fewer shown.lies
  rcases (learns.isKnown_iff name).mp shown.known with known | ⟨unknown, listed⟩
  · exact Or.inl ⟨lay, known⟩
  · exact Or.inr ⟨lay, unknown, listed⟩

theorem liesKnown_pickUp {w : World} {item name : String} {k : Nat}
    (shown : (w.pickUp item).LiesKnown k name) :
    w.LiesKnown k name ∨
      name ∈ w.lyingAt k ∧ w.flags? name = some (true, false) ∧ name ∈ [item] := by
  have here := w.lyingHere_pickUp item
  refine (w.learns_pickUp item).liesKnown (w.rearranges_pickUp item) ?_ shown
  intro other lies
  exact (List.mem_filter.mp (here ▸ lies)).1

theorem liesKnown_carryOutDeed {w : World} {deed : Deed} {name : String} {k : Nat}
    (shown : (w.carryOutDeed deed).state.LiesKnown k name) :
    w.LiesKnown k name ∨
      name ∈ w.lyingAt k ∧ w.flags? name = some (true, false) ∧ name ∈ deed.finds := by
  have here := w.lyingHere_carryOutDeed deed
  refine (w.learns_carryOutDeed deed).liesKnown (w.rearranges_carryOutDeed deed) ?_ shown
  intro other lies
  exact (List.mem_filter.mp (here ▸ lies)).1

theorem liesKnown_putDown {w : World} {room : Room} (inside : w.currentRoom? = some room)
    {item name : String} {k : Nat} (shown : (w.putDown item).LiesKnown k name) :
    w.LiesKnown k name ∨ w.currentPlace? = some k ∧ item = name := by
  have here := lyingHere_putDown inside item
  have known : w.IsKnown name := shown.known
  rcases (w.rearranges_putDown item).mem_lyingAt shown.lies with old | ⟨place, new⟩
  · exact Or.inl ⟨old, known⟩
  · by_cases same : item = name
    · exact Or.inr ⟨place, same⟩
    · have lay : name ∈ w.lyingHere := by
        rw [here, addName] at new
        split at new
        · exact new
        · exact (List.mem_append.mp new).resolve_right fun last =>
            same (List.mem_singleton.mp last).symm
      rw [← lyingAt_here place] at lay
      exact Or.inl ⟨lay, known⟩

end World

namespace Game

open World

/-- An event drops an item of this name in the room at this place. -/
structure Drops (k : Nat) (name : String) (g : Game) (event : Event) : Prop where
  place : g.world.currentPlace? = some k
  success : (g.reply? event).map (·.status) = some .success
  drop : ∃ intent item, g.intent? event = some intent ∧ intent.action = .drop ∧
    g.world.CanDrop intent.primaryTarget? item ∧ item.name = name

/-- An event takes an item of this name, from wherever the player is. -/
structure Takes (name : String) (g : Game) (event : Event) : Prop where
  success : (g.reply? event).map (·.status) = some .success
  take : ∃ intent item, g.intent? event = some intent ∧ intent.action = .take ∧
    g.world.CanTake intent.primaryTarget? item ∧ item.name = name

/-- An event makes something known under this name. -/
def Reveals (name : String) (g : Game) (event : Event) : Prop :=
  ∃ deed, g.deed? event = some deed ∧ name ∈ deed.finds

/-- An item that lies in the room at this place becomes known by an event, and lies there still. -/
structure Uncovers (k : Nat) (name : String) (g : Game) (event : Event) : Prop where
  lay : name ∈ g.world.lyingAt k
  unknown : g.world.flags? name = some (true, false)
  cause : g.Takes name event ∨ g.Reveals name event
  shown : (g.after event).world.LiesKnown k name

/-- An event loads a world where a known item of this name lies in the room at this place. -/
def Brings (k : Nat) (name : String) (g : Game) (event : Event) : Prop :=
  ∃ w, g.loaded? (g.request? event) = some w ∧ w.LiesKnown k name

theorem liesKnown_alters {g : Game} {event : Event} {intent : Intent} {response : Response}
    {w : World} (asked : g.intent? event = some intent) (told : g.reply? event = some response)
    (alters : g.world.Alters g.vocabulary intent response w)
    (marks : w.Marks (g.after event).world) {k : Nat} {name : String}
    (shown : w.LiesKnown k name) :
    g.world.LiesKnown k name ∨ g.Drops k name event ∨ g.Uncovers k name event := by
  have still : (g.after event).world.LiesKnown k name := (liesKnown_marks marks).mpr shown
  cases alters with
  | nothing => exact Or.inl shown
  | hinted => exact Or.inl ⟨shown.lies, shown.known⟩
  | walked destination action can success => exact Or.inl (liesKnown_movePlayer.mp shown)
  | took item action can success =>
      rcases liesKnown_pickUp shown with before | ⟨lay, unknown, taken⟩
      · exact Or.inl before
      · have same : item.name = name := (List.mem_singleton.mp taken).symm
        have takes : g.Takes name event :=
          ⟨by rw [told, Option.map_some, success], intent, item, asked, action, can, same⟩
        exact Or.inr (Or.inr ⟨lay, unknown, Or.inl takes, still⟩)
  | dropped item action can success =>
      obtain ⟨room, inside⟩ := can.room
      rcases liesKnown_putDown inside shown with before | ⟨place, same⟩
      · exact Or.inl before
      · have drops : g.Drops k name event :=
          ⟨place, by rw [told, Option.map_some, success], intent, item, asked, action, can, same⟩
        exact Or.inr (Or.inl drops)
  | did deed doing success =>
      rcases liesKnown_carryOutDeed shown with before | ⟨lay, unknown, found⟩
      · exact Or.inl before
      · have does : g.deed? event = some deed := by
          rw [deed?, asked]
          exact doing
        exact Or.inr (Or.inr ⟨lay, unknown, Or.inr ⟨deed, does, found⟩, still⟩)

/-- What is shown in a room after an event was shown there before, or the event is why. -/
theorem liesKnown_after {g : Game} {event : Event} {k : Nat} {name : String}
    (shown : (g.after event).world.LiesKnown k name) :
    g.world.LiesKnown k name ∨ g.Drops k name event ∨ g.Uncovers k name event ∨
      g.Brings k name event := by
  cases loads : g.loaded? (g.request? event) with
  | none =>
      rcases g.after_cases loads with marks | ⟨intent, response, w, asked, told, alters, marks⟩
      · exact Or.inl ((liesKnown_marks marks).mp shown)
      · have altered := (liesKnown_marks marks).mp shown
        rcases liesKnown_alters asked told alters marks altered with before | drops | uncovers
        · exact Or.inl before
        · exact Or.inr (Or.inl drops)
        · exact Or.inr (Or.inr (Or.inl uncovers))
  | some w =>
      have loaded := (liesKnown_marks (marks_loaded loads)).mp shown
      have brings : g.Brings k name event := ⟨w, loads, loaded⟩
      exact Or.inr (Or.inr (Or.inr brings))

/-- Some event of a run is why an item is shown in a room. -/
def Explained (k : Nat) (name : String) (g : Game) (events : List Event) : Prop :=
  g.Sometime (Drops k name) events ∨ g.Sometime (Uncovers k name) events ∨
    g.Sometime (Brings k name) events

theorem liesKnown_run (events : List Event) {g : Game} {k : Nat} {name : String}
    (shown : (g.run events).world.LiesKnown k name) :
    g.world.LiesKnown k name ∨ Explained k name g events := by
  induction events generalizing g with
  | nil => exact Or.inl shown
  | cons event rest ih =>
      rcases ih shown with next | drops | uncovers | brings
      · rcases liesKnown_after next with before | drops | uncovers | brings
        · exact Or.inl before
        · exact Or.inr (Or.inl (Or.inl drops))
        · exact Or.inr (Or.inr (Or.inl (Or.inl uncovers)))
        · exact Or.inr (Or.inr (Or.inr (Or.inl brings)))
      · exact Or.inr (Or.inl (Or.inr drops))
      · exact Or.inr (Or.inr (Or.inl (Or.inr uncovers)))
      · exact Or.inr (Or.inr (Or.inr (Or.inr brings)))

end Game

/-! ## Replies that describe a room -/

namespace World

theorem look_view {w : World} {v : Vocabulary} {target? : Option String}
    (success : (w.look v target?).status = .success) :
    ∃ room, w.currentRoom? = some room ∧ w.look v target? = w.roomView room false := by
  rcases w.look_cases v target? with ⟨text, failed⟩ | shown
  · rw [failed] at success
    contradiction
  · exact shown

theorem walk_view {w : World} {v : Vocabulary} {target? : Option String}
    (success : (w.walk v target?).response.status = .success) :
    ∃ destination room brief, (w.movePlayer destination).currentRoom? = some room ∧
      w.walk v target? =
        ⟨w.movePlayer destination, (w.movePlayer destination).roomView room brief⟩ := by
  rcases w.walk_cases v target? with ⟨r, failed, same⟩ | ⟨destination, r, can, _, _⟩
  · rw [same, answer] at success
    exact absurd (success.symm.trans failed) (by decide)
  · obtain ⟨room, inside, walked⟩ := can.walk_eq
    exact ⟨destination.name, room, _, inside, walked⟩

/-- What is told is a description of the room where the player now is, and nothing was moved. -/
structure Describes (before : World) (response : Response) (after : World) : Prop where
  rooms : after.rooms = before.rooms
  items : after.items = before.items
  view : ∃ room brief, after.currentRoom? = some room ∧ response = after.roomView room brief

theorem Describes.marks {before middle after : World} {response : Response}
    (describes : before.Describes response middle) (marks : middle.Marks after) :
    before.Describes response after := by
  obtain ⟨rooms, items, view⟩ := describes
  obtain ⟨won, watched, dirty, _, _, rfl⟩ := marks
  exact ⟨rooms, items, view⟩

theorem describes_movement {w : World} {v : Vocabulary} {intent : Intent}
    (action : intent.action = .look ∨ intent.action = .move)
    (success : (w.carryOutMovement v intent).response.status = .success) :
    w.Describes (w.carryOutMovement v intent).response (w.carryOutMovement v intent).state := by
  rcases action with looks | moves
  · simp only [carryOutMovement, looks, answer] at success ⊢
    obtain ⟨room, here, view⟩ := look_view success
    exact ⟨rfl, rfl, room, false, here, view⟩
  · simp only [carryOutMovement, moves] at success ⊢
    obtain ⟨destination, room, brief, here, walked⟩ := walk_view success
    rw [walked]
    exact ⟨rfl, rfl, room, brief, here, rfl⟩

end World

namespace Game

open World

theorem describes_line {g : Game} {line : String} {fromPlayer : Bool}
    (action : (g.interpret line fromPlayer).1.action = .look ∨
      (g.interpret line fromPlayer).1.action = .move)
    (success : (g.respond line fromPlayer).response.status = .success) :
    g.world.Describes (g.respond line fromPlayer).response
      (g.after (.line line fromPlayer)).world := by
  have group : (g.interpret line fromPlayer).1.action.group? = some .movement := by
    rcases action with looks | moves
    · rw [looks]
      rfl
    · rw [moves]
      rfl
  have responds := g.respond_carryOut line fromPlayer (by rw [group]; decide)
  have carried : (g.interpret line fromPlayer).2.carryOut (g.interpret line fromPlayer).1 =
      (g.interpret line fromPlayer).2.inWorld
        (g.world.carryOutMovement g.vocabulary (g.interpret line fromPlayer).1) := by
    unfold carryOut
    rw [group]
    rfl
  rw [carried] at responds
  simp only [after, responds] at success ⊢
  exact (describes_movement action success).marks (marks_checkVictory _)

/-- A look or a walk that succeeds is told by a description of the room where it ends. -/
theorem describes_event {g : Game} {event : Event} {intent : Intent} {response : Response}
    (asked : g.intent? event = some intent)
    (action : intent.action = .look ∨ intent.action = .move)
    (told : g.reply? event = some response) (success : response.status = .success) :
    g.world.Describes response (g.after event).world := by
  cases event with
  | line text fromPlayer =>
      cases asked
      cases told
      exact describes_line action success
  | turn text =>
      cases asked
      have told : (g.respond text true).response = response := by
        simpa [reply?, takeTurn] using told
      rw [← told] at success
      have described := (describes_line action success).marks (marks_rollCredits _)
      rw [told, ← after_turn] at described
      exact described
  | save => simp [intent?] at asked
  | load mode => simp [intent?] at asked
  | closing => simp [intent?] at asked

/-- From a world where no description lists an item, as one that is loaded may be, whenever a look
or a walk succeeds, the reply describes the room where the player is then, and each item that it
lists as dropped there was dropped in that room earlier in the run, or became known while it lay
there, or was there in a world that was loaded since. -/
theorem listed_items_are_explained (g : Game) (bare : g.world.NothingLeft) (early : List Event)
    (event : Event) {intent : Intent} {response : Response}
    (asked : (g.run early).intent? event = some intent)
    (action : intent.action = .look ∨ intent.action = .move)
    (told : (g.run early).reply? event = some response) (success : response.status = .success) :
    ∃ k room brief, ((g.run early).after event).world.currentPlace? = some k ∧
      ((g.run early).after event).world.rooms[k]? = some room ∧
      response = ((g.run early).after event).world.roomView room brief ∧
      ∀ item ∈ ((g.run early).after event).world.droppedItems room,
        g.Explained k item.name early := by
  obtain ⟨rooms, items, room, brief, here, view⟩ := describes_event asked action told success
  obtain ⟨k, place, there⟩ := exists_currentPlace here
  refine ⟨k, room, brief, place, there, view, ?_⟩
  intro item listed
  -- The look or the walk itself moves nothing, so what it lists was there to be listed before.
  have before := (liesKnown_congr rooms items).mp (liesKnown_of_listed there listed)
  exact (liesKnown_run early before).resolve_left bare.not_liesKnown

end Game

namespace PickleQuest

/-- In the kitchen the fork is taken and dropped, and is listed as the player looks around. -/
theorem fork_is_listed_when_dropped :
    let early := [Event.line "go north" true, .turn "take fork", .turn "drop fork"]
    game.world.NothingLeft ∧
      (((game.run early).after (.line "look" true)).world.currentRoom?.map fun room =>
        (((game.run early).after (.line "look" true)).world.droppedItems room).map (·.name)) =
          some ["fork"] ∧
      game.Explained 1 "fork" early := by
  intro early
  have facts : game.world.NothingLeft ∧
      ((game.run early).interpret "look" true).1.action = .look ∧
      ((game.run early).respond "look" true).response.status = .success ∧
      (((game.run early).after (.line "look" true)).world.currentRoom?.map fun room =>
        (((game.run early).after (.line "look" true)).world.droppedItems room).map (·.name)) =
          some ["fork"] ∧
      ((game.run early).after (.line "look" true)).world.currentPlace? = some 1 := by
    decide +kernel
  obtain ⟨bare, action, success, listed, here⟩ := facts
  refine ⟨bare, listed, ?_⟩
  obtain ⟨k, room, brief, place, there, _, explained⟩ :=
    game.listed_items_are_explained bare early (.line "look" true) rfl (Or.inl action) rfl success
  rw [World.currentRoom?_eq place, there, Option.map_some, Option.some.injEq] at listed
  obtain ⟨item, member, named⟩ : ∃ item ∈
      ((game.run early).after (.line "look" true)).world.droppedItems room, item.name = "fork" := by
    apply List.mem_map.mp
    rw [listed]
    exact List.mem_singleton_self "fork"
  have same : k = 1 := Option.some.inj (place.symm.trans here)
  exact same ▸ named ▸ explained item member

/-- After a load, in the living room, the player finds the remote in the couch and leaves it there,
and it is listed as dropped. -/
theorem remote_is_listed_undropped :
    let early := [Event.line "go east" true, .line "sit on couch" true]
    ∃ loaded, game.save.1.load .resume = .ok loaded ∧ loaded.world.NothingLeft ∧
      Reply.droppedItems ∈ ((loaded.run early).respond "look" true).response.text ∧
      ((loaded.run early).world.currentRoom?.map fun room =>
        ((loaded.run early).world.droppedItems room).map (·.name)) = some ["remote"] ∧
      ∀ k name, ¬ loaded.Sometime (Game.Drops k name) early := by
  intro early
  have loads := resume_savedStart
  generalize start :
    game.save.1.withWorld { game.world.persisted with dirty := false } = loaded at loads
  have facts : loaded.world.NothingLeft ∧
      Reply.droppedItems ∈ ((loaded.run early).respond "look" true).response.text ∧
      ((loaded.run early).world.currentRoom?.map fun room =>
        ((loaded.run early).world.droppedItems room).map (·.name)) = some ["remote"] ∧
      (loaded.interpret "go east" true).1.action ≠ .drop ∧
      ((loaded.after (.line "go east" true)).interpret "sit on couch" true).1.action ≠ .drop := by
    rw [← start]
    decide +kernel
  obtain ⟨bare, header, listed, first, second⟩ := facts
  refine ⟨loaded, loads, bare, header, listed, ?_⟩
  rintro k name (⟨_, _, intent, _, asked, action, _⟩ | ⟨_, _, intent, _, asked, action, _⟩ | never)
  · exact first (Option.some.inj asked ▸ action)
  · exact second (Option.some.inj asked ▸ action)
  · exact never

end PickleQuest

end TextAdventure
