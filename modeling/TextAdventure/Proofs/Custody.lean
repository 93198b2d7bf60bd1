import TextAdventure.Proofs.Changes
import TextAdventure.Proofs.Lookup
import TextAdventure.Proofs.Uniqueness

/-!
# Where items come from and where they go

What is taken leaves the current room for the end of what is carried, and what is dropped goes the
other way.  An interaction touches the names of its transforms and no others, and what it adds are
results of these.  None of this reaches another room.  So in a run whatever is held was held at the
start or has been made, and whatever was held at the start still is or has been used up.
-/

set_option autoImplicit false

namespace TextAdventure

open Transform

namespace World

/-! ## The current room among the rooms -/

/-- The rooms, with these names lying in the current one. -/
def roomsWith (w : World) (names : List String) : List Room :=
  updateFirst (·.name == w.player.location) (fun room => { room with inventory := names }) w.rooms

theorem roomsWith_lyingHere (w : World) : w.roomsWith w.lyingHere = w.rooms := by
  have same : ∀ room, w.rooms.find? (·.name == w.player.location) = some room →
      { room with inventory := w.lyingHere } = id room := by
    intro room found
    have here : w.lyingHere = room.inventory := by
      rw [lyingHere_eq, currentRoom?, found]
      rfl
    rw [here]
    rfl
  rw [roomsWith, updateFirst_congr same, updateFirst_id]

/-- Of the rooms only what lies in the current one has changed, and it is still the current one. -/
structure Rearranges (before after : World) : Prop where
  location : after.player.location = before.player.location
  rooms : after.rooms = before.roomsWith after.lyingHere

theorem rearranges_of_same {before after : World} (rooms : after.rooms = before.rooms)
    (location : after.player.location = before.player.location) : before.Rearranges after := by
  have here : after.lyingHere = before.lyingHere := by
    rw [lyingHere_eq, lyingHere_eq, currentRoom?, currentRoom?, rooms, location]
  refine ⟨location, ?_⟩
  rw [here, roomsWith_lyingHere, rooms]

theorem Rearranges.trans {before middle after : World} (early : before.Rearranges middle)
    (late : middle.Rearranges after) : before.Rearranges after := by
  refine ⟨late.location.trans early.location, ?_⟩
  have named : ∀ room : Room,
      ({ room with inventory := middle.lyingHere }.name == before.player.location) =
        (room.name == before.player.location) := fun _ => rfl
  rw [late.rooms, roomsWith, early.location, early.rooms, roomsWith, updateFirst_updateFirst named]
  rfl

theorem rearranges_updateRoom (w : World) (change : Room → Room)
    (only : ∀ room, change room = { room with inventory := (change room).inventory }) :
    w.Rearranges (w.updateRoom change) := by
  refine ⟨rfl, ?_⟩
  apply updateFirst_congr
  intro room found
  have named : ∀ other, (change other).name = other.name := by
    intro other
    rw [only other]
  have here := congrArg Holdings.here (w.holdings_updateRoom change named)
  have inside : w.currentRoom? = some room := found
  rw [inside] at here
  have lying : (w.updateRoom change).lyingHere = (change room).inventory := here
  rw [lying]
  exact only room

theorem rearranges_removeNearby (w : World) (name : String) :
    w.Rearranges (w.removeNearby name) := by
  have given : w.Rearranges (w.updatePlayer (·.remove name)) := rearranges_of_same rfl rfl
  exact given.trans (rearranges_updateRoom _ (·.remove name) fun _ => rfl)

theorem rearranges_produce (w : World) (name : String) : w.Rearranges (w.produce name) :=
  (w.rearranges_removeNearby name).trans (rearranges_of_same rfl rfl)

@[simp]
theorem rooms_updateItems (w : World) (names : List String) (change : Item → Item) :
    (w.updateItems names change).rooms = w.rooms := by
  induction names generalizing w with
  | nil => rfl
  | cons name rest ih => exact ih (w.updateItem name change)

theorem rearranges_reveal (w : World) (i : Interaction) : w.Rearranges (w.reveal i) := by
  have rooms : (w.reveal i).rooms = w.rooms := by simp [reveal]
  exact rearranges_of_same rooms (location_of_standing (w.standing_reveal i))

theorem rearranges_applyEffects (w : World) (name action : String) (i : Interaction) :
    w.Rearranges (w.applyEffects name action i) := by
  have rooms : (w.applyEffects name action i).rooms = w.rooms := by
    unfold applyEffects
    cases i.newDescription <;> rfl
  exact rearranges_of_same rooms (location_of_standing (w.standing_applyEffects name action i))

theorem staysWithin_rearranges (deed : Deed) : deed.StaysWithin Rearranges where
  refl _ := rearranges_of_same rfl rfl
  trans := Rearranges.trans
  effects w _ action i _ := w.rearranges_applyEffects _ action i
  reveal := rearranges_reveal
  removal := rearranges_removeNearby
  production := rearranges_produce
  touch _ := rearranges_of_same rfl rfl

theorem rearranges_carryOutDeed (w : World) (deed : Deed) :
    w.Rearranges (w.carryOutDeed deed).state :=
  (staysWithin_rearranges deed).carryOut w

theorem rearranges_pickUp (w : World) (name : String) : w.Rearranges (w.pickUp name) :=
  (w.rearranges_updateRoom (·.remove name) fun _ => rfl).trans (rearranges_of_same rfl rfl)

theorem rearranges_putDown (w : World) (name : String) : w.Rearranges (w.putDown name) :=
  (w.rearranges_updateRoom (·.place name) fun _ => rfl).trans (rearranges_of_same rfl rfl)

/-! ## What is moved -/

/-- An item that may be taken goes from the current room to the end of what is carried. -/
structure Taken (before : World) (name : String) (after : World) : Prop where
  free : ∃ item ∈ before.items, item.name = name ∧ item.collectible = true ∧ item.locked = false
  carried : after.player.inventory = before.player.inventory ++ [name]
  lying : ∃ first second, before.lyingHere = first ++ name :: second ∧
    after.rooms = before.roomsWith (first ++ second)

/-- An item goes from the player to the end of what lies in the current room. -/
structure Dropped (before : World) (name : String) (after : World) : Prop where
  inside : ∃ room, before.currentRoom? = some room
  carried : ∃ first second, before.player.inventory = first ++ name :: second ∧
    after.player.inventory = first ++ second
  lying : after.rooms = before.roomsWith (before.lyingHere ++ [name])

theorem removeName_split {name : String} {held : List String} (once : held.Nodup)
    (member : name ∈ held) :
    ∃ first second, held = first ++ name :: second ∧ removeName name held = first ++ second := by
  obtain ⟨first, second, _, split, erased⟩ := List.exists_erase_eq member
  refine ⟨first, second, split, ?_⟩
  rw [← erased]
  exact (once.erase_eq_filter name).symm

theorem addName_of_notMem {name : String} {held : List String} (free : name ∉ held) :
    addName name held = held ++ [name] := by
  simp [addName, free]

theorem CanTake.taken {w : World} {target? : Option String} {item : Item}
    (can : w.CanTake target? item) (once : w.HeldOnce) :
    w.Taken item.name (w.pickUp item.name) := by
  obtain ⟨_, _, named⟩ := Option.bind_eq_some_iff.mp can.found
  have lying : item.name ∈ w.lyingHere := List.contains_iff_mem.mp can.here
  have unique : (w.player.inventory ++ (w.lyingHere ++ w.elsewhere)).Nodup :=
    w.heldOnce_iff.mp once
  simp only [List.nodup_append, List.mem_append] at unique
  obtain ⟨_, ⟨hereOnce, _, _⟩, away⟩ := unique
  have free : item.name ∉ w.player.inventory := fun held => away _ held _ (Or.inl lying) rfl
  obtain ⟨first, second, split, removed⟩ := removeName_split hereOnce lying
  refine ⟨⟨item, item?_mem named, rfl, can.collectible, can.unlocked⟩, ?_, first, second, split, ?_⟩
  · rw [inventory_pickUp, addName_of_notMem free]
  · rw [(w.rearranges_pickUp item.name).rooms, lyingHere_pickUp, removed]

theorem CanDrop.dropped {w : World} {target? : Option String} {item : Item}
    (can : w.CanDrop target? item) (once : w.HeldOnce) :
    w.Dropped item.name (w.putDown item.name) := by
  obtain ⟨room, inside⟩ := can.room
  have held : item.name ∈ w.player.inventory := List.contains_iff_mem.mp can.held
  have carriedOnce : w.player.inventory.Nodup := (List.nodup_append.mp once).1
  have free : item.name ∉ w.lyingHere := by
    intro lying
    have here : w.inRoom item.name = true := List.contains_iff_mem.mpr lying
    rw [can.absent] at here
    contradiction
  obtain ⟨first, second, split, removed⟩ := removeName_split carriedOnce held
  refine ⟨⟨room, inside⟩, ⟨first, second, split, ?_⟩, ?_⟩
  · rw [inventory_putDown inside, removed]
  · rw [(w.rearranges_putDown item.name).rooms, lyingHere_putDown inside,
      addName_of_notMem free]

end World

/-! ## What is made -/

/-- Names that no transform mentions stay, in their order, and a name of which there is more
afterwards is the result of a transform. -/
structure Exchanges (ts : List Transform) (before after : List String) : Prop where
  kept : withoutNames (ts.flatMap mentions) after = withoutNames (ts.flatMap mentions) before
  added : ∀ name, before.count name < after.count name → ∃ t ∈ ts, t.result = some name

theorem exchanges_made (ts : List Transform) (held : List String) {made : List String}
    (results : ∀ name ∈ made, ∃ t ∈ ts, t.result = some name) :
    Exchanges ts held (withoutNames (ts.flatMap mentions) held ++ made) := by
  constructor
  · have gone : withoutNames (ts.flatMap mentions) made = [] := by
      apply List.filter_eq_nil_iff.mpr
      intro name member
      obtain ⟨t, listed, result⟩ := results name member
      simpa using mem_mentions_of_result listed result
    rw [withoutNames_append, gone, List.append_nil, withoutNames, withoutNames, List.filter_filter]
    simp
  · intro name more
    have fewer : (withoutNames (ts.flatMap mentions) held).count name ≤ held.count name :=
      List.filter_sublist.count_le name
    rw [List.count_append] at more
    have made_ : 0 < made.count name := by omega
    exact results name (List.count_pos_iff.mp made_)

theorem madeBy_or_source {ts : List Transform} {name : String}
    (mentioned : name ∈ ts.flatMap mentions) :
    name ∈ madeBy ts ∨ ∃ t ∈ ts, t.source = some name := by
  -- What is carried on the way stays so until it is used up, so the start has to be any list.
  have stays : ∀ carried : List String, name ∈ carried ∨ name ∈ ts.flatMap mentions →
      name ∈ ts.foldl carriedAfter carried ∨ ∃ t ∈ ts, t.source = some name := by
    clear mentioned
    induction ts with
    | nil => exact fun _ present => Or.inl (by simpa using present)
    | cons t rest ih =>
        intro carried present
        rw [List.foldl_cons]
        by_cases used : t.source = some name
        · exact Or.inr ⟨t, List.mem_cons_self, used⟩
        · have next : name ∈ carriedAfter carried t ∨ name ∈ rest.flatMap mentions := by
            simp only [List.flatMap_cons, List.mem_append] at present
            simp only [carriedAfter, withoutNames, mentions, List.mem_append, List.mem_filter,
              Option.mem_toList] at present ⊢
            by_cases made : t.result = some name
            · exact Or.inl (Or.inr made)
            · simp only [used, made, or_false, false_or] at present
              simpa [used, made] using present
          rcases ih _ next with later | ⟨other, listed, source⟩
          · exact Or.inl later
          · exact Or.inr ⟨other, List.mem_cons_of_mem _ listed, source⟩
  exact stays [] (Or.inr mentioned)

namespace World

/-- The names of some transforms are exchanged, and only at hand. -/
structure Exchanged (before : World) (ts : List Transform) (after : World) : Prop where
  carried : Exchanges ts before.player.inventory after.player.inventory
  lying : Exchanges ts before.lyingHere after.lyingHere
  rooms : after.rooms = before.roomsWith after.lyingHere

theorem exchanged_carryOutDeed (w : World) (deed : Deed) :
    w.Exchanged deed.transforms (w.carryOutDeed deed).state := by
  refine ⟨?carried, ?lying, (w.rearranges_carryOutDeed deed).rooms⟩
  case carried =>
      rw [inventory_carryOutDeed]
      exact exchanges_made _ _ fun _ => result_of_madeBy
  case lying =>
      have removed : Exchanges deed.transforms w.lyingHere
          (withoutNames (deed.transforms.flatMap mentions) w.lyingHere ++ []) :=
        exchanges_made _ _ fun _ listed => nomatch listed
      rw [lyingHere_carryOutDeed]
      rwa [List.append_nil] at removed

/-! ## One line -/

/-- What a line does to the inventories: nothing, or it takes one item, or it drops one, or it acts
on items. -/
inductive Handled (before : World) (intent : Intent) (response : Response) (after : World) : Prop
  | untouched (carried : after.player.inventory = before.player.inventory)
      (rooms : after.rooms = before.rooms)
  | taken (name : String) (action : intent.action = .take) (success : response.status = .success)
      (moved : before.Taken name after)
  | dropped (name : String) (action : intent.action = .drop) (success : response.status = .success)
      (moved : before.Dropped name after)
  | worked (deed : Deed) (doing : before.deed? intent = some deed)
      (success : response.status = .success) (exchanged : before.Exchanged deed.transforms after)

theorem Alters.handled {w altered : World} {v : Vocabulary} {intent : Intent} {response : Response}
    (alters : w.Alters v intent response altered) (once : w.HeldOnce) :
    w.Handled intent response altered := by
  cases alters with
  | nothing => exact .untouched rfl rfl
  | hinted => exact .untouched rfl rfl
  | walked destination action can success => exact .untouched rfl rfl
  | took item action can success => exact .taken item.name action success (can.taken once)
  | dropped item action can success => exact .dropped item.name action success (can.dropped once)
  | did deed doing success => exact .worked deed doing success (w.exchanged_carryOutDeed deed)

/-- Marks are no part of what is held. -/
theorem Handled.marked {before altered : World} {intent : Intent} {response : Response}
    (handled : before.Handled intent response altered) (won watched dirty : Bool) :
    before.Handled intent response (altered.marked won watched dirty) := by
  cases handled with
  | untouched carried rooms => exact .untouched carried rooms
  | taken name action success moved =>
      exact .taken name action success ⟨moved.free, moved.carried, moved.lying⟩
  | dropped name action success moved =>
      exact .dropped name action success ⟨moved.inside, moved.carried, moved.lying⟩
  | worked deed doing success exchanged =>
      exact .worked deed doing success ⟨exchanged.carried, exchanged.lying, exchanged.rooms⟩

/-! ## Events and runs -/

/-- What is held was held before or has been made; what was held still is or has been used up. -/
structure Conserves (made used : String → Prop) (before after : World) : Prop where
  origin : ∀ name ∈ after.held, name ∈ before.held ∨ made name
  fate : ∀ name ∈ before.held, name ∈ after.held ∨ used name

theorem mem_held {w : World} {name : String} :
    name ∈ w.held ↔
      name ∈ w.holdings.carried ∨ name ∈ w.holdings.here ∨ name ∈ w.holdings.elsewhere := by
  rw [w.held_perm.mem_iff, Holdings.names, List.mem_append, List.mem_append]

theorem conserves_of_same {made used : String → Prop} {before after : World}
    (same : ∀ name, name ∈ after.held ↔ name ∈ before.held) : Conserves made used before after :=
  ⟨fun name member => Or.inl ((same name).mp member),
    fun name member => Or.inl ((same name).mpr member)⟩

theorem mem_held_pickUp {w : World} {item : String} (here : w.inRoom item = true) (name : String) :
    name ∈ (w.pickUp item).held ↔ name ∈ w.held := by
  have lying : item ∈ w.holdings.here := List.contains_iff_mem.mp here
  simp only [mem_held, holdings_pickUp, addName, removeName, List.mem_filter]
  grind

theorem mem_held_putDown {w : World} {item : String} {room : Room}
    (inside : w.currentRoom? = some room) (held : w.player.holds item = true) (name : String) :
    name ∈ (w.putDown item).held ↔ name ∈ w.held := by
  have carried : item ∈ w.holdings.carried := List.contains_iff_mem.mp held
  simp only [mem_held, holdings_putDown inside, addName, removeName, List.mem_filter]
  grind

theorem conserves_carryOutDeed (w : World) (deed : Deed) :
    Conserves (fun name => ∃ t ∈ deed.transforms, t.result = some name)
      (fun name => ∃ t ∈ deed.transforms, t.source = some name) w (w.carryOutDeed deed).state := by
  constructor
  · intro name member
    simp only [mem_held, holdings_carryOutDeed, List.mem_append, mem_withoutNames] at member ⊢
    rcases member with (⟨old, _⟩ | made) | ⟨old, _⟩ | old
    · exact Or.inl (Or.inl old)
    · exact Or.inr (result_of_madeBy made)
    · exact Or.inl (Or.inr (Or.inl old))
    · exact Or.inl (Or.inr (Or.inr old))
  · intro name member
    simp only [mem_held, holdings_carryOutDeed, List.mem_append, mem_withoutNames] at member ⊢
    by_cases mentioned : name ∈ deed.transforms.flatMap mentions
    · rcases madeBy_or_source mentioned with made | source
      · exact Or.inl (Or.inl (Or.inr made))
      · exact Or.inr source
    · grind

end World

namespace Game

open World

/-- An event makes an item of this name. -/
def Makes (name : String) (g : Game) (event : Event) : Prop :=
  ∃ deed, g.deed? event = some deed ∧ ∃ t ∈ deed.transforms, t.result = some name

/-- An event uses up what has this name. -/
def UsesUp (name : String) (g : Game) (event : Event) : Prop :=
  ∃ deed, g.deed? event = some deed ∧ ∃ t ∈ deed.transforms, t.source = some name

theorem conserves_after (g : Game) {event : Event}
    (loadless : g.loaded? (g.request? event) = none) :
    Conserves (g.Makes · event) (g.UsesUp · event) g.world (g.after event).world := by
  rcases g.after_cases loadless with marks | ⟨intent, response, w, asked, _, alters, marks⟩
  · obtain ⟨won, watched, dirty, _, _, same⟩ := marks
    rw [same]
    exact conserves_of_same fun _ => Iff.rfl
  · have altered : Conserves (g.Makes · event) (g.UsesUp · event) g.world w := by
      cases alters with
      | nothing => exact conserves_of_same fun _ => Iff.rfl
      | hinted => exact conserves_of_same fun _ => Iff.rfl
      | walked destination action can success => exact conserves_of_same fun _ => Iff.rfl
      | took item action can success => exact conserves_of_same (mem_held_pickUp can.here)
      | dropped item action can success =>
          obtain ⟨room, inside⟩ := can.room
          exact conserves_of_same (mem_held_putDown inside can.held)
      | did deed doing success =>
          have does : g.deed? event = some deed := by rw [deed?, asked]; exact doing
          obtain ⟨origin, fate⟩ := g.world.conserves_carryOutDeed deed
          exact ⟨fun name member => (origin name member).imp id fun made => ⟨deed, does, made⟩,
            fun name member => (fate name member).imp id fun used => ⟨deed, does, used⟩⟩
    obtain ⟨won, watched, dirty, _, _, same⟩ := marks
    rw [same]
    exact ⟨altered.origin, altered.fate⟩

theorem conserves_run (events : List Event) {g : Game} (loadless : g.Loadless events) :
    Conserves (fun name => g.Sometime (Makes name) events)
      (fun name => g.Sometime (UsesUp name) events) g.world (g.run events).world := by
  induction events generalizing g with
  | nil => exact conserves_of_same fun _ => Iff.rfl
  | cons event rest ih =>
      obtain ⟨origin, fate⟩ := g.conserves_after loadless.1
      obtain ⟨laterOrigin, laterFate⟩ := ih loadless.2
      constructor
      · intro name member
        rcases laterOrigin name member with before | made
        · exact (origin name before).imp id Or.inl
        · exact Or.inr (Or.inr made)
      · intro name member
        rcases fate name member with next | used
        · exact (laterFate name next).imp id Or.inr
        · exact Or.inr (Or.inl used)

/-- If each item is held once, a line that loads nothing moves one item between the player and the
current room, or exchanges names of the transforms of what it does, or leaves all inventories as
they are.  In a run that loads nothing, an item that is held at the end was held at the start or was
made on the way, and one that was held at the start still is or was used up on the way. -/
theorem items_are_conserved (g : Game) :
    (g.world.HeldOnce → ∀ line fromPlayer,
      g.loaded? (g.request? (.line line fromPlayer)) = none →
      g.world.Handled (g.interpret line fromPlayer).1 (g.respond line fromPlayer).response
        (g.respond line fromPlayer).state.world) ∧
    ∀ events, g.Loadless events → ∀ name,
      (name ∈ (g.run events).world.held →
        name ∈ g.world.held ∨ g.Sometime (Makes name) events) ∧
      (name ∈ g.world.held →
        name ∈ (g.run events).world.held ∨ g.Sometime (UsesUp name) events) := by
  constructor
  · intro once line fromPlayer loadless
    obtain ⟨w, alters, won, watched, dirty, _, _, same⟩ := g.alters_line line fromPlayer loadless
    rw [same]
    exact (alters.handled once).marked won watched dirty
  · intro events loadless name
    obtain ⟨origin, fate⟩ := conserves_run events loadless
    exact ⟨origin name, fate name⟩

end Game

namespace PickleQuest

def inKitchen : Game := { game with world := kitchenWorld }

/-- In the kitchen the fork is taken, and then the drawer yields a flashlight that was nowhere. -/
theorem fork_is_taken_and_flashlight_made :
    let opening := [Event.line "take fork" true, .line "open drawer" true]
    inKitchen.world.HeldOnce ∧
      kitchenWorld.Taken "fork" (inKitchen.respond "take fork" true).state.world ∧
      "flashlight" ∉ inKitchen.world.held ∧
      "flashlight" ∈ (inKitchen.run opening).world.held ∧
      inKitchen.Sometime (Game.Makes "flashlight") opening := by
  intro opening
  have taking : inKitchen.world.HeldOnce ∧
      inKitchen.loaded? (inKitchen.request? (.line "take fork" true)) = none ∧
      (inKitchen.interpret "take fork" true).1.action = .take ∧
      (inKitchen.respond "take fork" true).state.world.player.inventory = ["fork"] := by
    decide +kernel
  have making : (inKitchen.after (.line "take fork" true)).loaded?
        ((inKitchen.after (.line "take fork" true)).request? (.line "open drawer" true)) = none ∧
      "flashlight" ∉ inKitchen.world.held ∧
      "flashlight" ∈ (inKitchen.run opening).world.held := by
    decide +kernel
  obtain ⟨once, loadless, action, carried⟩ := taking
  obtain ⟨loadlessNext, absent, present⟩ := making
  have conserved := inKitchen.items_are_conserved
  have handled := conserved.1 once "take fork" true loadless
  have moved : kitchenWorld.Taken "fork" (inKitchen.respond "take fork" true).state.world := by
    cases handled with
    | untouched same _ =>
        rw [carried] at same
        exact absurd same (by decide)
    | taken name _ _ moved =>
        have last := moved.carried
        rw [carried] at last
        have named : "fork" = name := by simpa [inKitchen, kitchenWorld, world, player] using last
        exact named ▸ moved
    | dropped name other _ _ =>
        rw [action] at other
        cases other
    | worked deed doing _ _ =>
        rw [World.deed?_eq_none (by simp [action, Action.group?])] at doing
        cases doing
  have origin := (conserved.2 opening ⟨loadless, loadlessNext, trivial⟩ "flashlight").1 present
  exact ⟨once, moved, absent, present, origin.resolve_left absent⟩

end PickleQuest

end TextAdventure
