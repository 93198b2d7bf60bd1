import TextAdventure.Proofs.Events

/-!
# Who may enter a room

Five things decide a walk, one after the other: the target leads to a room, the room has no unmet
blocker, the player is in a room, it is not the same one, and it has an exit to the other.  `Admits`
says that all of them hold, and `Refuses` which of them is the first that does not, with the reply
for it.  One of the two is true of every target, and `walk` does what it says.
-/

set_option autoImplicit false

namespace TextAdventure

namespace World

variable {w : World} {v : Vocabulary} {target? : Option String} {room : Room}

/-! ## The conditions -/

/-- The target leads to a room: by a name of the room, or else as a direction. -/
def LeadsInto (w : World) (v : Vocabulary) (target? : Option String) (room : Room) : Prop :=
  ∃ target, target? = some target ∧
    (w.room? target = some room ∨
      w.room? target = none ∧ w.roomInDirection? v target = some room)

/-- The objective of a blocker exists and is incomplete. -/
def Unmet (w : World) (blocker : Blocker) : Prop :=
  ∃ objective, w.objective? blocker.objective = some objective ∧ w.complete objective = false

/-- All that a walk needs. -/
structure Admits (w : World) (v : Vocabulary) (target? : Option String) (room : Room) : Prop where
  found : w.LeadsInto v target? room
  lifted : ∀ blocker ∈ room.blockers, ¬w.Unmet blocker
  reached : ∃ current, w.currentRoom? = some current ∧
    (room.name ≠ current.name ∧ room.name ∉ current.aliases) ∧ room.name ∈ current.exits

/-- The first thing that is missing for a walk, with the reply that names it. -/
inductive Refuses (w : World) (v : Vocabulary) (target? : Option String) : Response → Prop
  | nowhere (unfound : ∀ room, ¬w.LeadsInto v target? room) :
      Refuses w v target? (.failure Reply.cantDoThat)
  | barred (room : Room) (before after : List Blocker) (blocker : Blocker)
      (found : w.LeadsInto v target? room) (blockers : room.blockers = before ++ blocker :: after)
      (lifted : ∀ other ∈ before, ¬w.Unmet other) (unmet : w.Unmet blocker) :
      Refuses w v target? (.prose .failure blocker.message)
  | lost (room : Room) (found : w.LeadsInto v target? room)
      (lifted : ∀ blocker ∈ room.blockers, ¬w.Unmet blocker) (outside : w.currentRoom? = none) :
      Refuses w v target? (.failure Reply.cantDoThat)
  | alreadyHere (room current : Room) (found : w.LeadsInto v target? room)
      (lifted : ∀ blocker ∈ room.blockers, ¬w.Unmet blocker)
      (inside : w.currentRoom? = some current)
      (here : room.name = current.name ∨ room.name ∈ current.aliases) :
      Refuses w v target? (.failure Reply.alreadyHere)
  | noExit (room current : Room) (found : w.LeadsInto v target? room)
      (lifted : ∀ blocker ∈ room.blockers, ¬w.Unmet blocker)
      (inside : w.currentRoom? = some current)
      (away : room.name ≠ current.name ∧ room.name ∉ current.aliases)
      (unconnected : room.name ∉ current.exits) :
      Refuses w v target? (.failure Reply.cantGoThatWay)

/-! ## The conditions as the code tests them -/

theorem leadsInto_iff :
    w.LeadsInto v target? room ↔ target?.bind (w.destination? v) = some room := by
  cases target? with
  | none => simp [LeadsInto]
  | some target => simp [LeadsInto, destination?, Option.or_eq_some_iff]

theorem blocks_iff (w : World) (blocker : Blocker) : w.blocks blocker = true ↔ w.Unmet blocker := by
  unfold blocks Unmet
  cases w.objective? blocker.objective <;> simp

theorem unmetBlocker?_eq_none :
    w.unmetBlocker? room = none ↔ ∀ blocker ∈ room.blockers, ¬w.Unmet blocker := by
  rw [unmetBlocker?, Option.map_eq_none_iff, List.find?_eq_none]
  simp only [blocks_iff]

theorem unmetBlocker?_eq_some {message : String} :
    w.unmetBlocker? room = some message ↔
      ∃ before blocker after, room.blockers = before ++ blocker :: after ∧
        (∀ other ∈ before, ¬w.Unmet other) ∧ w.Unmet blocker ∧ blocker.message = message := by
  have not_blocks : ∀ blocker, (!w.blocks blocker) = true ↔ ¬w.Unmet blocker := fun blocker => by
    rw [← blocks_iff, Bool.not_eq_true', Bool.not_eq_true]
  simp only [unmetBlocker?, Option.map_eq_some_iff, List.find?_eq_some_iff_append, blocks_iff,
    not_blocks]
  constructor
  · rintro ⟨blocker, ⟨unmet, before, after, blockers, lifted⟩, told⟩
    exact ⟨before, blocker, after, blockers, lifted, unmet, told⟩
  · rintro ⟨before, blocker, after, blockers, lifted, unmet, told⟩
    exact ⟨blocker, ⟨unmet, before, after, blockers, lifted⟩, told⟩

theorem isHere_eq_true {current : Room} :
    isHere current room = true ↔ room.name = current.name ∨ room.name ∈ current.aliases := by
  rw [isHere, Bool.or_eq_true, beq_iff_eq, List.contains_iff_mem, eq_comm]

theorem isHere_eq_false {current : Room} :
    isHere current room = false ↔ room.name ≠ current.name ∧ room.name ∉ current.aliases := by
  rw [← Bool.not_eq_true, isHere_eq_true, not_or]

theorem leadsTo_eq_true {current : Room} {name : String} :
    current.leadsTo name = true ↔ name ∈ current.exits :=
  List.contains_iff_mem

/-! ## The decision -/

theorem Admits.canWalk (admits : w.Admits v target? room) : w.CanWalk v target? room := by
  obtain ⟨current, inside, away, connected⟩ := admits.reached
  exact ⟨leadsInto_iff.mp admits.found, unmetBlocker?_eq_none.mpr admits.lifted, current, inside,
    isHere_eq_false.mpr away, leadsTo_eq_true.mpr connected⟩

theorem admits_or_refuses (w : World) (v : Vocabulary) (target? : Option String) :
    (∃ room, w.Admits v target? room) ∨ ∃ r, w.Refuses v target? r := by
  by_cases somewhere : ∃ room, w.LeadsInto v target? room
  · obtain ⟨room, found⟩ := somewhere
    cases blocker : w.unmetBlocker? room with
    | some message =>
        obtain ⟨before, blocker, after, blockers, lifted, unmet, _⟩ :=
          unmetBlocker?_eq_some.mp blocker
        exact Or.inr ⟨_, .barred room before after blocker found blockers lifted unmet⟩
    | none =>
        have lifted := unmetBlocker?_eq_none.mp blocker
        cases inside : w.currentRoom? with
        | none => exact Or.inr ⟨_, .lost room found lifted inside⟩
        | some current =>
            by_cases here : room.name = current.name ∨ room.name ∈ current.aliases
            · exact Or.inr ⟨_, .alreadyHere room current found lifted inside here⟩
            · have away := not_or.mp here
              by_cases connected : room.name ∈ current.exits
              · exact Or.inl ⟨room, found, lifted, current, inside, away, connected⟩
              · exact Or.inr ⟨_, .noExit room current found lifted inside away connected⟩
  · exact Or.inr ⟨_, .nowhere fun room found => somewhere ⟨room, found⟩⟩

/-- A refused walk changes nothing and is answered with the reply. -/
theorem Refuses.walk_eq {r : Response} (refuses : w.Refuses v target? r) :
    w.walk v target? = w.answer r ∧ r.status = .failure := by
  refine ⟨?_, by cases refuses <;> rfl⟩
  cases refuses with
  | nowhere unfound =>
      have unled : target?.bind (w.destination? v) = none := by
        refine Option.eq_none_iff_forall_ne_some.mpr fun room found => ?_
        exact unfound room (leadsInto_iff.mpr found)
      rw [World.walk_eq, unled]
      rfl
  | barred room before after blocker found blockers lifted unmet =>
      have message : w.unmetBlocker? room = some blocker.message :=
        unmetBlocker?_eq_some.mpr ⟨before, blocker, after, blockers, lifted, unmet, rfl⟩
      rw [World.walk_eq, leadsInto_iff.mp found]
      simp only [message]
  | lost room found lifted outside =>
      have unblocked := unmetBlocker?_eq_none.mpr lifted
      rw [World.walk_eq, leadsInto_iff.mp found]
      simp only [unblocked, outside, refuse]
  | alreadyHere room current found lifted inside here =>
      have unblocked := unmetBlocker?_eq_none.mpr lifted
      have same := isHere_eq_true.mpr here
      rw [World.walk_eq, leadsInto_iff.mp found]
      simp only [unblocked, inside, same, refuse, if_true]
  | noExit room current found lifted inside away unconnected =>
      have unblocked := unmetBlocker?_eq_none.mpr lifted
      have apart := isHere_eq_false.mpr away
      have closed : current.leadsTo room.name = false := by
        rw [← Bool.not_eq_true, leadsTo_eq_true]
        exact unconnected
      rw [World.walk_eq, leadsInto_iff.mp found]
      simp [unblocked, inside, apart, closed, refuse]

theorem walk_succeeds_iff (w : World) (v : Vocabulary) (target? : Option String) :
    (w.walk v target?).response.status = .success ↔ ∃ room, w.Admits v target? room := by
  constructor
  · intro success
    rcases w.admits_or_refuses v target? with admits | ⟨r, refuses⟩
    · exact admits
    · obtain ⟨walked, failure⟩ := refuses.walk_eq
      rw [walked, answer, failure] at success
      contradiction
  · rintro ⟨room, admits⟩
    obtain ⟨_, _, walked⟩ := admits.canWalk.walk_eq
    rw [walked]
    exact status_roomView _ _ _

theorem refuses_iff (w : World) (v : Vocabulary) (target? : Option String) (r : Response) :
    w.Refuses v target? r ↔
      (w.walk v target?).response.status = .failure ∧ (w.walk v target?).response = r := by
  constructor
  · intro refuses
    obtain ⟨walked, failure⟩ := refuses.walk_eq
    rw [walked]
    exact ⟨failure, rfl⟩
  · rintro ⟨failure, rfl⟩
    rcases w.admits_or_refuses v target? with admits | ⟨r, refuses⟩
    · rw [(w.walk_succeeds_iff v target?).mpr admits] at failure
      contradiction
    · rwa [refuses.walk_eq.1]

/-! ## The reply to a barred room -/

/-- Both tests of the blockers agree, so that a room is barred by a blocker with a message. -/
theorem barredReply_of_isBarred (barred : w.isBarred room = true) :
    ∃ before blocker after, room.blockers = before ++ blocker :: after ∧
      (∀ other ∈ before, ¬w.Unmet other) ∧ w.Unmet blocker ∧
      barredReply (w.unmetBlocker? room) = .prose .failure blocker.message := by
  rw [isBarred_eq, Option.isSome_iff_exists] at barred
  obtain ⟨message, unmet⟩ := barred
  obtain ⟨before, blocker, after, blockers, lifted, open_, rfl⟩ := unmetBlocker?_eq_some.mp unmet
  exact ⟨before, blocker, after, blockers, lifted, open_, by rw [unmet]; rfl⟩

theorem LeadsInto.mem (found : w.LeadsInto v target? room) : room ∈ w.rooms := by
  obtain ⟨_, _, named⟩ := Option.bind_eq_some_iff.mp (leadsInto_iff.mp found)
  exact destination?_mem named

/-- The reply to broken blockers is told only where it is a blocker's own message. -/
theorem Refuses.ne_brokenBlockers {r : Response} (refuses : w.Refuses v target? r)
    (proper : ∀ room ∈ w.rooms, ∀ blocker ∈ room.blockers,
      blocker.message ≠ Reply.brokenBlockers) :
    r ≠ barredReply none := by
  cases refuses with
  | barred room before after blocker found blockers lifted unmet =>
      have member : blocker ∈ room.blockers := by
        rw [blockers]
        exact List.mem_append_right before List.mem_cons_self
      intro same
      have told : blocker.message = Reply.brokenBlockers := by
        simpa [barredReply, Response.prose] using same
      exact proper room found.mem blocker member told
  | nowhere | lost | alreadyHere | noExit => simp [barredReply, Response.prose, Response.failure,
      Response.remark]

/-! ## The view after a walk -/

/-- The messages about what the player left in a room. -/
def leftListing (w : World) (room : Room) : List Message :=
  match w.droppedItems room with
  | [] => []
  | dropped => (Response.listing Reply.droppedItems (dropped.map Item.summary)).messages

theorem messages_roomView (w : World) (room : Room) (brief : Bool) :
    (w.roomView room brief).messages =
      [.blank, .paragraph (if brief then room.shortDescription else w.describe room)] ++
        w.leftListing room := by
  unfold roomView leftListing
  cases w.droppedItems room with
  | nil => rfl
  | cons item items => rfl

theorem look_of_currentRoom? {current : Room} (inside : w.currentRoom? = some current) :
    w.look v none = w.roomView current false := by
  simp only [look, inside]

theorem Admits.view (admits : w.Admits v target? room) :
    (w.walk v target?).state = w.movePlayer room.name ∧
      ∃ current, (w.walk v target?).state.currentRoom? = some current ∧ current.name = room.name ∧
        (w.walk v target?).response =
          (w.walk v target?).state.roomView current (w.player.hasVisited room.name) := by
  obtain ⟨current, inside, walked⟩ := admits.canWalk.walk_eq
  have here := List.find?_some inside
  have named : current.name = room.name := beq_iff_eq.mp here
  rw [walked]
  exact ⟨rfl, current, inside, named, rfl⟩

/-- A walk succeeds exactly if the target is admitted, and fails with the reply to the first
condition that is not met; a barred room is answered by its first unmet blocker.  A walk that
succeeds takes the player into the room, who is told what a look would tell on a first visit, and
the same in brief on later ones. -/
theorem walk_admits_or_gives_first_reason (w : World) (v : Vocabulary) (target? : Option String) :
    let walked := w.walk v target?
    (walked.response.status = .success ↔ ∃ room, w.Admits v target? room) ∧
    (∀ r, w.Refuses v target? r ↔ walked.response.status = .failure ∧ walked.response = r) ∧
    (∀ room, w.isBarred room = true → ∃ before blocker after,
      room.blockers = before ++ blocker :: after ∧ (∀ other ∈ before, ¬w.Unmet other) ∧
        w.Unmet blocker ∧
        barredReply (w.unmetBlocker? room) = .prose .failure blocker.message) ∧
    ((∀ room ∈ w.rooms, ∀ blocker ∈ room.blockers, blocker.message ≠ Reply.brokenBlockers) →
      walked.response ≠ barredReply none) ∧
    ∀ room, w.Admits v target? room → walked.state = w.movePlayer room.name ∧
      ∃ current, walked.state.currentRoom? = some current ∧ current.name = room.name ∧
        (room.name ∉ w.player.visitedRooms →
          walked.response.messages =
              [.blank, .paragraph (walked.state.describe current)] ++
                walked.state.leftListing current ∧
            walked.response = walked.state.look v none) ∧
        (room.name ∈ w.player.visitedRooms →
          walked.response.messages =
            [.blank, .paragraph current.shortDescription] ++ walked.state.leftListing current) := by
  intro walked
  refine ⟨w.walk_succeeds_iff v target?, w.refuses_iff v target?,
    fun room => barredReply_of_isBarred, ?_, ?_⟩
  · intro proper told
    rcases w.admits_or_refuses v target? with admits | ⟨r, refuses⟩
    · have success := (w.walk_succeeds_iff v target?).mpr admits
      rw [told] at success
      contradiction
    · have same : walked.response = r := ((w.refuses_iff v target? r).mp refuses).2
      exact refuses.ne_brokenBlockers proper (same.symm.trans told)
  · intro room admits
    obtain ⟨moved, current, inside, named, view⟩ := admits.view
    refine ⟨moved, current, inside, named, ?_, ?_⟩
    · intro new
      have first : w.player.hasVisited room.name = false := by simpa [Player.hasVisited] using new
      rw [first] at view
      refine ⟨?_, view.trans (look_of_currentRoom? inside).symm⟩
      rw [view, messages_roomView]
      rfl
    · intro visited
      have again : w.player.hasVisited room.name = true := by
        simpa [Player.hasVisited] using visited
      rw [again] at view
      rw [view, messages_roomView]
      rfl

end World

namespace PickleQuest

/-- From the entry the player walks north into the kitchen; the pantry is too dark to enter. -/
theorem kitchen_admits_and_pantry_refuses :
    let inKitchen := game.world.walk game.vocabulary (some "north")
    let atPantry := inKitchen.state.walk game.vocabulary (some "larder")
    inKitchen.response.status = .success ∧
      inKitchen.response = inKitchen.state.look game.vocabulary none ∧
      (∃ blocker ∈ pantry.blockers, atPantry.response = .prose .failure blocker.message) ∧
      atPantry.response ≠ World.barredReply none := by
  intro inKitchen atPantry
  have known : (some "north").bind (game.world.destination? game.vocabulary) = some kitchen ∧
      game.world.currentRoom? = some entry ∧
      (some "larder").bind (inKitchen.state.destination? game.vocabulary) = some pantry ∧
      (∀ blocker ∈ pantry.blockers, inKitchen.state.blocks blocker = true) ∧
      ∀ room ∈ inKitchen.state.rooms, ∀ blocker ∈ room.blockers,
        blocker.message ≠ Reply.brokenBlockers := by
    decide +kernel
  obtain ⟨north, inside, larder, dark, proper⟩ := known
  have admits : game.world.Admits game.vocabulary (some "north") kitchen :=
    ⟨World.leadsInto_iff.mpr north, by simp [kitchen], entry, inside, by decide, by decide⟩
  obtain ⟨blocker, only⟩ : ∃ blocker, pantry.blockers = [blocker] := ⟨_, rfl⟩
  have member : blocker ∈ pantry.blockers := by simp [only]
  have unmet : inKitchen.state.Unmet blocker := (World.blocks_iff _ _).mp (dark blocker member)
  have refuses : inKitchen.state.Refuses game.vocabulary (some "larder")
      (.prose .failure blocker.message) :=
    .barred pantry [] [] blocker (World.leadsInto_iff.mpr larder) only (by simp) unmet
  obtain ⟨succeeds, _, _, _, views⟩ :=
    game.world.walk_admits_or_gives_first_reason game.vocabulary (some "north")
  obtain ⟨_, fails, _, unbroken, _⟩ :=
    inKitchen.state.walk_admits_or_gives_first_reason game.vocabulary (some "larder")
  obtain ⟨_, _, _, _, first, _⟩ := views kitchen admits
  exact ⟨succeeds.mpr ⟨kitchen, admits⟩, (first (by decide)).2,
    ⟨blocker, member, ((fails _).mp refuses).2⟩, unbroken proper⟩

end PickleQuest

end TextAdventure
