import TextAdventure.Turn.Dispatch

/-!
# What carrying out an intent does

`carryOut_effect` sums up the whole dispatch: an intent is answered without any change, or it has
one of nine effects, and each of these says all that the code checked before it.  Everything else
about whole turns splits on these cases and does not look at the commands again.
-/

set_option autoImplicit false

namespace TextAdventure

/-- What was done with items: one was acted on, or two were used together. -/
inductive Deed where
  | single (item action : String) (i : Interaction)
  | paired (first second : String) (i j : Interaction)
deriving DecidableEq

namespace Deed

/-- The transforms that count; of a pair those of the first item. -/
def transforms : Deed → List Transform
  | single _ _ i => i.transforms
  | paired _ _ i _ => i.transforms

end Deed

namespace World

/-- What acting on one item would do, if nothing stands in its way. -/
def actDeed? (w : World) (target action : String) : Option Deed :=
  match w.item? target with
  | none => none
  | some item =>
      if w.nearby item.name && item.known then
        (w.usable? item action).map (.single item.name action)
      else none

def useDeed? (w : World) (targets : List String) : Option Deed :=
  match targets with
  | [] => none
  | [target] => w.actDeed? target "use"
  | target :: other :: _ =>
      match w.pairing target other with
      | .error _ => none
      | .ok (first, second, i, j) => some (.paired first second i j)

/-- What an intent does with items, if it does anything. -/
def deed? (w : World) (intent : Intent) : Option Deed :=
  if intent.action = .use then w.useDeed? intent.presentTargets
  else
    match intent.action.key?, intent.primaryTarget? with
    | some key, some target => w.actDeed? target key
    | _, _ => none

def carryOutDeed (w : World) : Deed → Outcome World
  | .single item action i => w.perform item action i
  | .paired first second i j => w.performPair first second i j

/-! ## Walking -/

/-- A walk to a target ends in a room. -/
structure CanWalk (w : World) (v : Vocabulary) (target? : Option String) (destination : Room) :
    Prop where
  found : target?.bind (w.destination? v) = some destination
  unblocked : w.unmetBlocker? destination = none
  exit : ∃ current, w.currentRoom? = some current ∧ isHere current destination = false ∧
    current.leadsTo destination.name = true

theorem room?_mem {w : World} {name : String} {room : Room} (h : w.room? name = some room) :
    room ∈ w.rooms :=
  List.mem_of_find?_eq_some h

theorem destination?_mem {w : World} {v : Vocabulary} {phrase : String} {room : Room}
    (h : w.destination? v phrase = some room) : room ∈ w.rooms := by
  rw [destination?, Option.or_eq_some_iff] at h
  rcases h with named | ⟨_, directed⟩
  · exact room?_mem named
  · simp only [roomInDirection?, Option.bind_eq_bind, Option.bind_eq_some_iff] at directed
    obtain ⟨_, _, _, _, _, _, named⟩ := directed
    exact room?_mem named

theorem exists_currentRoom {w : World} {room : Room} (member : room ∈ w.rooms)
    (here : room.name = w.player.location) :
    ∃ current, w.currentRoom? = some current ∧ current.name = w.player.location := by
  have known : w.currentRoom?.isSome = true := by
    simp only [currentRoom?, List.find?_isSome]
    exact ⟨room, member, by simp [here]⟩
  obtain ⟨current, found⟩ := Option.isSome_iff_exists.mp known
  exact ⟨current, found, currentRoom?_name found⟩

theorem currentRoom?_movePlayer {w : World} {room : Room} (h : room ∈ w.rooms) :
    ∃ current, (w.movePlayer room.name).currentRoom? = some current ∧ current.name = room.name :=
  exists_currentRoom (w := w.movePlayer room.name) h rfl

@[simp]
theorem status_roomView (w : World) (room : Room) (brief : Bool) :
    (w.roomView room brief).status = .success := by
  cases dropped : w.droppedItems room with
  | nil => simp [roomView, dropped, Response.prose]
  | cons item items => simp [roomView, dropped, Response.prose, Response.extend]

theorem CanWalk.walk_eq {w : World} {v : Vocabulary} {target? : Option String} {destination : Room}
    (can : w.CanWalk v target? destination) :
    ∃ room, (w.movePlayer destination.name).currentRoom? = some room ∧
      w.walk v target? = ⟨w.movePlayer destination.name,
        (w.movePlayer destination.name).roomView room (w.player.hasVisited destination.name)⟩ := by
  obtain ⟨current, here, apart, leads⟩ := can.exit
  obtain ⟨_, _, named⟩ := Option.bind_eq_some_iff.mp can.found
  obtain ⟨entered, inside, _⟩ := currentRoom?_movePlayer (destination?_mem named)
  refine ⟨entered, inside, ?_⟩
  simp [World.walk_eq, can.found, can.unblocked, here, apart, leads, enter, inside, answer]

theorem walk_cases (w : World) (v : Vocabulary) (target? : Option String) :
    (∃ r, r.status = .failure ∧ w.walk v target? = w.answer r) ∨
    (∃ destination r, w.CanWalk v target? destination ∧ r.status = .success ∧
      w.walk v target? = ⟨w.movePlayer destination.name, r⟩) := by
  cases found : target?.bind (w.destination? v) with
  | none => exact Or.inl ⟨.failure Reply.cantDoThat, rfl, by simp [World.walk_eq, found, refuse]⟩
  | some destination =>
      cases blocker : w.unmetBlocker? destination with
      | some message =>
          exact Or.inl ⟨.prose .failure message, rfl, by simp [World.walk_eq, found, blocker]⟩
      | none =>
          cases here : w.currentRoom? with
          | none =>
              exact Or.inl ⟨.failure Reply.cantDoThat, rfl, by
                simp [World.walk_eq, found, blocker, here, refuse]⟩
          | some current =>
              by_cases same : isHere current destination = true
              · exact Or.inl ⟨.failure Reply.alreadyHere, rfl, by
                  simp [World.walk_eq, found, blocker, here, same, refuse]⟩
              · by_cases leads : current.leadsTo destination.name = true
                · have can : w.CanWalk v target? destination :=
                    ⟨found, blocker, current, here, by simpa using same, leads⟩
                  obtain ⟨_, _, walked⟩ := can.walk_eq
                  exact Or.inr ⟨destination, _, can, status_roomView _ _ _, walked⟩
                · exact Or.inl ⟨.failure Reply.cantGoThatWay, rfl, by
                    simp [World.walk_eq, found, blocker, here, same, leads, refuse]⟩

/-- A look fails, or shows the current room in full. -/
theorem look_cases (w : World) (v : Vocabulary) (target? : Option String) :
    (∃ text, w.look v target? = .failure text) ∨
    ∃ room, w.currentRoom? = some room ∧ w.look v target? = w.roomView room false := by
  unfold look
  split
  case h_1 => exact Or.inl ⟨_, rfl⟩
  case h_2 current here => exact Or.inr ⟨current, here, rfl⟩
  case h_3 current target here =>
      split
      · exact Or.inl ⟨_, rfl⟩
      · split
        · split
          · exact Or.inr ⟨current, here, rfl⟩
          · exact Or.inl ⟨_, rfl⟩
        · exact Or.inl ⟨_, rfl⟩

/-! ## Taking and dropping -/

/-- A target can be taken, as this item. -/
structure CanTake (w : World) (target? : Option String) (item : Item) : Prop where
  found : target?.bind w.item? = some item
  collectible : item.collectible = true
  unlocked : item.locked = false
  here : w.inRoom item.name = true

/-- A target can be dropped, as this item. -/
structure CanDrop (w : World) (target? : Option String) (item : Item) : Prop where
  found : target?.bind w.item? = some item
  held : w.player.holds item.name = true
  absent : w.inRoom item.name = false
  room : ∃ room, w.currentRoom? = some room

theorem item?_mem {w : World} {name : String} {item : Item} (h : w.item? name = some item) :
    item ∈ w.items :=
  List.mem_of_find?_eq_some h

theorem record?_isSome {w : World} {item : Item} (h : item ∈ w.items) :
    ∃ found, w.record? item.name = some found := by
  apply Option.isSome_iff_exists.mp
  simp only [record?, List.find?_isSome]
  exact ⟨item, h, by simp⟩

/-- Items keep their records while they are carried about. -/
@[simp]
theorem record?_carry (w : World) (item name : String) :
    (w.carry item).record? name = w.record? name := rfl

theorem take_cases (w : World) (target? : Option String) :
    (∃ text, w.take target? = w.refuse text) ∨
    (∃ item r, w.CanTake target? item ∧ r.status = .success ∧
      w.take target? = ⟨w.pickUp item.name, r⟩) := by
  cases found : target?.bind w.item? with
  | none => exact Or.inl ⟨Reply.itemNotFound, by simp [take, found]⟩
  | some item =>
      by_cases carried : (w.player.holds item.name && !w.inRoom item.name) = true
      · refine Or.inl ⟨Reply.alreadyCarried, ?_⟩
        simp only [take, found]
        rw [if_pos carried]
      · by_cases stuck : (!item.collectible || item.locked) = true
        · refine Or.inl ⟨Reply.cantPickUp, ?_⟩
          simp only [take, found]
          rw [if_neg carried, if_pos stuck]
        · by_cases here : w.inRoom item.name = true
          · obtain ⟨_, named⟩ := Option.bind_eq_some_iff.mp found
            -- What was found has a record, so it is not missed after it was moved.
            obtain ⟨other, other_found⟩ := record?_isSome (item?_mem named.2)
            have free : item.collectible = true ∧ item.locked = false := by simpa using stuck
            refine Or.inr ⟨item, .headed Reply.itemAdded other.summary,
              ⟨found, free.1, free.2, here⟩, rfl, ?_⟩
            simp [take, found, here, free, other_found, answer]
          · refine Or.inl ⟨Reply.itemNotFound, ?_⟩
            simp only [take, found]
            rw [if_neg carried, if_neg stuck, if_pos (by simpa using here)]

theorem drop_cases (w : World) (target? : Option String) :
    (∃ text, w.drop target? = w.refuse text) ∨
    (∃ item r, w.CanDrop target? item ∧ r.status = .success ∧
      w.drop target? = ⟨w.putDown item.name, r⟩) := by
  cases found : target?.bind w.item? with
  | none => exact Or.inl ⟨Reply.itemNotFound, by simp [drop, found]⟩
  | some item =>
      by_cases held : w.player.holds item.name = true
      · by_cases here : w.inRoom item.name = true
        · exact Or.inl ⟨Reply.alreadyInRoom, by simp [drop, found, held, here]⟩
        · cases inside : w.currentRoom? with
          | none => exact Or.inl ⟨Reply.itemNotFound, by simp [drop, found, held, here, inside]⟩
          | some room =>
              refine Or.inr ⟨item, .headed (Reply.dropped room.name) item.summary,
                ⟨found, held, by simpa using here, room, inside⟩, rfl, ?_⟩
              simp [drop, found, held, here, inside, answer]
      · exact Or.inl ⟨Reply.notInInventory, by simp [drop, found, held]⟩

/-! ## Doing things with items -/

theorem act_eq (w : World) (target action : String) :
    (w.actDeed? target action = none ∧ ∃ text, w.act target action = w.refuse text) ∨
    (∃ deed, w.actDeed? target action = some deed ∧ w.act target action = w.carryOutDeed deed) := by
  cases found : w.item? target with
  | none => exact Or.inl ⟨by simp [actDeed?, found], Reply.itemNotFound, by simp [act, found]⟩
  | some item =>
      by_cases near : w.nearby item.name = true
      · by_cases known : item.known = true
        · cases usable : w.usable? item action with
          | none =>
              exact Or.inl ⟨by simp [actDeed?, found, near, known, usable],
                Reply.nothingHappens action item.name, by simp [act, found, near, known, usable]⟩
          | some i =>
              exact Or.inr ⟨.single item.name action i,
                by simp [actDeed?, found, near, known, usable],
                by simp [act, found, near, known, usable, carryOutDeed]⟩
        · exact Or.inl ⟨by simp [actDeed?, found, known],
            Reply.tooFarAway action item.name, by simp [act, found, near, known]⟩
      · exact Or.inl ⟨by simp [actDeed?, found, near], Reply.itemNotFound,
          by simp [act, found, near]⟩

theorem use_eq (w : World) (targets : List String) :
    (w.useDeed? targets = none ∧ ∃ text, w.use targets = w.refuse text) ∨
    (∃ deed, w.useDeed? targets = some deed ∧ w.use targets = w.carryOutDeed deed) := by
  match targets with
  | [] => exact Or.inl ⟨rfl, Reply.tryNaming, rfl⟩
  | [target] => exact act_eq w target "use"
  | target :: other :: _ =>
      cases paired : w.pairing target other with
      | error text =>
          exact Or.inl ⟨by simp [useDeed?, paired], text, by simp [use, actPair, paired]⟩
      | ok pair =>
          obtain ⟨first, second, i, j⟩ := pair
          exact Or.inr ⟨.paired first second i j, by simp [useDeed?, paired],
            by simp [use, actPair, paired, carryOutDeed]⟩

theorem carryOutInteraction_eq (w : World) (intent : Intent) :
    (w.deed? intent = none ∧ ∃ text, w.carryOutInteraction intent = w.refuse text) ∨
    (∃ deed, w.deed? intent = some deed ∧ w.carryOutInteraction intent = w.carryOutDeed deed) := by
  unfold deed? carryOutInteraction
  by_cases used : intent.action = .use
  · rw [if_pos used, if_pos used]
    exact use_eq w intent.presentTargets
  · rw [if_neg used, if_neg used]
    cases intent.action.key? with
    | none => exact Or.inl ⟨rfl, Reply.unsure, rfl⟩
    | some key =>
        cases intent.primaryTarget? with
        | none => exact Or.inl ⟨rfl, Reply.itemNotFound, rfl⟩
        | some target => exact act_eq w target key

theorem deed?_eq_none {w : World} {intent : Intent}
    (h : intent.action.group? ≠ some .interaction) : w.deed? intent = none := by
  have unused : intent.action ≠ .use := by
    intro used
    rw [used] at h
    exact h rfl
  have keyless : intent.action.key? = none := by
    cases action : intent.action <;> simp_all [Action.group?, Action.key?]
  simp [deed?, unused, keyless]

end World

/-! ## The whole dispatch -/

/-- What is asked of the files. -/
inductive Request where
  | save
  | load (mode : LoadMode)
deriving DecidableEq

namespace Intent

def request? (intent : Intent) : Option Request :=
  match intent.action with
  | .saveGame => some .save
  | .loadGame => some (.load .resume)
  | .newGame => some (.load .new)
  | _ => none

end Intent

namespace Game

/-- The effects that carrying out an intent may have, each with its outcome. -/
inductive Effect (g : Game) (intent : Intent) : Outcome Game → Prop
  /-- Something is told, and nothing changes. -/
  | told (r : Response) (idle : g.world.deed? intent = none) (quiet : intent.request? = none) :
      Effect g intent ⟨g, r⟩
  | left (action : intent.action = .exit) : Effect g intent g.leave
  | paced (speed : Speed) (r : Response) (action : intent.action = .scroll)
      (success : r.status = .success) : Effect g intent ⟨g.setSpeed speed, r⟩
  | hinted (action : intent.action = .hint) : Effect g intent g.hint
  | saved (asked : intent.request? = some .save) : Effect g intent g.saveCommand
  | loaded (mode : LoadMode) (asked : intent.request? = some (.load mode)) :
      Effect g intent (g.loadCommand mode)
  | walked (destination : Room) (r : Response) (action : intent.action = .move)
      (can : g.world.CanWalk g.vocabulary intent.primaryTarget? destination)
      (success : r.status = .success) :
      Effect g intent ⟨g.withWorld (g.world.movePlayer destination.name), r⟩
  | took (item : Item) (r : Response) (action : intent.action = .take)
      (can : g.world.CanTake intent.primaryTarget? item) (success : r.status = .success) :
      Effect g intent ⟨g.withWorld (g.world.pickUp item.name), r⟩
  | dropped (item : Item) (r : Response) (action : intent.action = .drop)
      (can : g.world.CanDrop intent.primaryTarget? item) (success : r.status = .success) :
      Effect g intent ⟨g.withWorld (g.world.putDown item.name), r⟩
  | did (deed : Deed) (doing : g.world.deed? intent = some deed) :
      Effect g intent (g.inWorld (g.world.carryOutDeed deed))

theorem request?_eq_none {intent : Intent} (h : intent.action.group? ≠ some .housekeeping) :
    intent.request? = none := by
  cases action : intent.action <;> simp_all [Action.group?, Intent.request?]

theorem scroll_cases (g : Game) (target? : Option String) :
    (∃ text, g.scroll target? = g.refuse text) ∨
    ∃ speed text, g.scroll target? = (g.setSpeed speed).answer (.success text) := by
  unfold scroll
  split
  · exact Or.inl ⟨_, rfl⟩
  · split
    · exact Or.inl ⟨_, rfl⟩
    · split
      · exact Or.inl ⟨_, rfl⟩
      · exact Or.inr ⟨_, _, rfl⟩

theorem effect_of_movement (g : Game) (intent : Intent)
    (group : intent.action.group? = some .movement) :
    g.Effect intent (g.inWorld (g.world.carryOutMovement g.vocabulary intent)) := by
  have idle : g.world.deed? intent = none := World.deed?_eq_none (by simp [group])
  have quiet : intent.request? = none := request?_eq_none (by simp [group])
  unfold World.carryOutMovement
  split
  case h_1 action =>
      rcases g.world.walk_cases g.vocabulary intent.primaryTarget? with
        ⟨r, _, same⟩ | ⟨destination, r, can, success, moved⟩
      · rw [same]
        exact .told r idle quiet
      · rw [moved]
        exact .walked destination r action can success
  case h_2 => exact .told _ idle quiet
  case h_3 => exact .told _ idle quiet

theorem effect_of_housekeeping (g : Game) (intent : Intent)
    (group : intent.action.group? = some .housekeeping) :
    g.Effect intent (g.carryOutHousekeeping intent) := by
  have idle : g.world.deed? intent = none := World.deed?_eq_none (by simp [group])
  unfold carryOutHousekeeping
  cases action : intent.action <;> simp only
  case exit => exact .left action
  case saveGame => exact .saved (by simp [Intent.request?, action])
  case loadGame => exact .loaded .resume (by simp [Intent.request?, action])
  case newGame => exact .loaded .new (by simp [Intent.request?, action])
  case hint => exact .hinted action
  case scroll =>
      have quiet : intent.request? = none := by simp [Intent.request?, action]
      rcases g.scroll_cases intent.primaryTarget? with ⟨text, failed⟩ | ⟨speed, text, changed⟩
      · rw [failed]
        exact .told _ idle quiet
      · rw [changed]
        exact .paced _ _ action rfl
  all_goals exact .told _ idle (by simp [Intent.request?, action])

theorem effect_of_carrying (g : Game) (intent : Intent)
    (group : intent.action.group? = some .carrying) :
    g.Effect intent (g.inWorld (g.world.carryOutCarrying intent)) := by
  have idle : g.world.deed? intent = none := World.deed?_eq_none (by simp [group])
  have quiet : intent.request? = none := request?_eq_none (by simp [group])
  unfold World.carryOutCarrying
  split
  case h_1 action =>
      rcases g.world.take_cases intent.primaryTarget? with
        ⟨text, same⟩ | ⟨item, r, can, success, moved⟩
      · rw [same]
        exact .told _ idle quiet
      · rw [moved]
        exact .took item r action can success
  case h_2 action =>
      rcases g.world.drop_cases intent.primaryTarget? with
        ⟨text, same⟩ | ⟨item, r, can, success, moved⟩
      · rw [same]
        exact .told _ idle quiet
      · rw [moved]
        exact .dropped item r action can success
  all_goals exact .told _ idle quiet

theorem effect_of_interaction (g : Game) (intent : Intent)
    (group : intent.action.group? = some .interaction) :
    g.Effect intent (g.inWorld (g.world.carryOutInteraction intent)) := by
  have quiet : intent.request? = none := request?_eq_none (by simp [group])
  rcases g.world.carryOutInteraction_eq intent with ⟨idle, text, same⟩ | ⟨deed, doing, done⟩
  · rw [same]
    exact .told _ idle quiet
  · rw [done]
    exact .did deed doing

/-- All that carrying out an intent can do. -/
theorem carryOut_effect (g : Game) (intent : Intent) : g.Effect intent (g.carryOut intent) := by
  unfold carryOut
  cases group : intent.action.group? with
  | none =>
      exact .told _ (World.deed?_eq_none (by simp [group])) (request?_eq_none (by simp [group]))
  | some group_ =>
      cases group_ with
      | movement => exact effect_of_movement g intent group
      | housekeeping => exact effect_of_housekeeping g intent group
      | carrying => exact effect_of_carrying g intent group
      | interaction => exact effect_of_interaction g intent group

end Game

end TextAdventure
