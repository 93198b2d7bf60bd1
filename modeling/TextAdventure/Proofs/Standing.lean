import TextAdventure.Proofs.Events

/-!
# What nothing but walking, winning and loading changes

A line that loads nothing changes the player's place only by walking and the win only by the check
that follows it.  The plan of the rooms, which is the rooms without what lies in them, and the
credits stay as they are.  So all that such a line can do to the standing of a game is one move and
one check.
-/

set_option autoImplicit false

namespace TextAdventure

structure Standing where
  plan : List Room
  location : String
  won : Bool
  watchedCredits : Bool
deriving DecidableEq

namespace World

/-- The rooms without what lies in them. -/
def plan (w : World) : List Room :=
  w.rooms.map fun room => { room with inventory := [] }

theorem map_name_plan (w : World) : w.plan.map (·.name) = w.rooms.map (·.name) := by
  simp [plan]

def standing (w : World) : Standing :=
  ⟨w.plan, w.player.location, w.player.won, w.player.watchedCredits⟩

section Parts

variable {w w' : World} (same : w'.standing = w.standing)

include same

theorem plan_of_standing : w'.plan = w.plan := congrArg Standing.plan same

theorem location_of_standing : w'.player.location = w.player.location :=
  congrArg Standing.location same

theorem won_of_standing : w'.player.won = w.player.won := congrArg Standing.won same

theorem watchedCredits_of_standing : w'.player.watchedCredits = w.player.watchedCredits :=
  congrArg Standing.watchedCredits same

end Parts

/-! ## Commands about items -/

@[simp]
theorem standing_touch (w : World) : w.touch.standing = w.standing := rfl

@[simp]
theorem standing_updateItem (w : World) (name : String) (change : Item → Item) :
    (w.updateItem name change).standing = w.standing := rfl

@[simp]
theorem standing_takenUp (w : World) (name : String) :
    (w.updatePlayer (·.take name)).standing = w.standing := rfl

@[simp]
theorem standing_givenUp (w : World) (name : String) :
    (w.updatePlayer (·.remove name)).standing = w.standing := rfl

theorem standing_updateRoom (w : World) (change : Room → Room)
    (kept : ∀ room, { change room with inventory := [] } = { room with inventory := [] }) :
    (w.updateRoom change).standing = w.standing := by
  have plan : (w.updateRoom change).plan = w.plan := map_updateFirst _ kept w.rooms
  rw [standing, plan]
  rfl

@[simp]
theorem standing_removeNearby (w : World) (name : String) :
    (w.removeNearby name).standing = w.standing := by
  rw [removeNearby, standing_updateRoom _ (·.remove name) fun _ => rfl, standing_givenUp]

@[simp]
theorem standing_pickUp (w : World) (name : String) : (w.pickUp name).standing = w.standing := by
  rw [pickUp, carry, standing_touch, standing_updateItem, standing_takenUp,
    standing_updateRoom _ (·.remove name) fun _ => rfl]

@[simp]
theorem standing_putDown (w : World) (name : String) : (w.putDown name).standing = w.standing := by
  rw [putDown, standing_touch, standing_givenUp,
    standing_updateRoom _ (·.place name) fun _ => rfl]

@[simp]
theorem standing_updateItems (w : World) (names : List String) (change : Item → Item) :
    (w.updateItems names change).standing = w.standing := by
  induction names generalizing w with
  | nil => rfl
  | cons name rest ih => exact ih (w.updateItem name change)

@[simp]
theorem standing_reveal (w : World) (i : Interaction) : (w.reveal i).standing = w.standing := by
  simp [reveal]

@[simp]
theorem standing_applyEffects (w : World) (name action : String) (i : Interaction) :
    (w.applyEffects name action i).standing = w.standing := by
  unfold applyEffects
  cases i.newDescription <;> rfl

theorem standing_applyTransform (w : World) (t : Transform) :
    (w.applyTransform t).standing = w.standing := by
  obtain ⟨source, result⟩ := t
  cases source <;> cases result <;> simp [applyTransform, consume, produce]

@[simp]
theorem standing_applyTransforms (w : World) (ts : List Transform) :
    (w.applyTransforms ts).standing = w.standing := by
  induction ts generalizing w with
  | nil => rfl
  | cons t rest ih => exact (ih (w.applyTransform t)).trans (w.standing_applyTransform t)

@[simp]
theorem standing_carryOutDeed (w : World) (deed : Deed) :
    (w.carryOutDeed deed).state.standing = w.standing := by
  cases deed <;> simp [carryOutDeed, perform, performPair, answer]

/-! ## Walking and winning -/

theorem plan_movePlayer (w : World) (room : String) : (w.movePlayer room).plan = w.plan := rfl

/-- The check sets nothing but the win. -/
theorem checkVictory_keeps (w : World) :
    w.checkVictory.plan = w.plan ∧
      w.checkVictory.player.location = w.player.location ∧
      w.checkVictory.player.watchedCredits = w.player.watchedCredits := by
  rcases w.checkVictory_cases with still | won
  · rw [still]
    exact ⟨rfl, rfl, rfl⟩
  · rw [won]
    exact ⟨rfl, rfl, rfl⟩

end World

namespace Game

/-- Whether no event of a run loads a world. -/
def Loadless (g : Game) : List Event → Prop
  | [] => True
  | event :: rest => g.loaded? (g.request? event) = none ∧ (g.after event).Loadless rest

theorem loadless_nil (g : Game) : g.Loadless [] := trivial

theorem loadless_cons {g : Game} {event : Event} {rest : List Event} :
    g.Loadless (event :: rest) ↔
      g.loaded? (g.request? event) = none ∧ (g.after event).Loadless rest := Iff.rfl

theorem Loadless.of_mem_steps {g s : Game} {event : Event} {events : List Event}
    (loadless : g.Loadless events) (member : (s, event) ∈ g.steps events) :
    s.loaded? (s.request? event) = none := by
  induction events generalizing g with
  | nil => exact absurd member List.not_mem_nil
  | cons first rest ih =>
      rcases List.mem_cons.mp member with same | later
      · cases same
        exact loadless.1
      · exact ih loadless.2 later

theorem load_of_loadless {g : Game} {mode : LoadMode} (h : g.loaded? (some (.load mode)) = none) :
    g.after (.load mode) = g := by
  rcases g.load_cases mode with ⟨w, _, loaded⟩ | ⟨error, _, failed⟩
  · simp [loaded?, serve?, loaded, Except.toOption] at h
  · rw [after, failed]
    rfl

theorem standing_save (g : Game) : g.save.1.world.standing = g.world.standing := by
  rcases g.save_cases with ⟨files, _, saved⟩ | ⟨files, error, _, failed⟩
  · rw [saved]
    rfl
  · rw [failed]

theorem standing_closing (g : Game) : (g.after .closing).world.standing = g.world.standing := by
  rcases g.after_closing with ⟨_, same⟩ | ⟨_, dialogue, _, same⟩
  · rw [same]
  · rw [same]
    split
    · exact standing_save { g with dialogue := dialogue }
    · rfl

theorem rollCredits_keeps (g : Game) :
    g.rollCredits.2.world.plan = g.world.plan ∧
      g.rollCredits.2.world.player.location = g.world.player.location := by
  rcases g.rollCredits_cases with still | rolled
  · rw [still]
    exact ⟨rfl, rfl⟩
  · rw [rolled]
    exact ⟨rfl, rfl⟩

/-- Without a load, an effect moves the player by walking or leaves the standing alone. -/
theorem Effect.standing_cases {g : Game} {intent : Intent} {outcome : Outcome Game}
    (effect : g.Effect intent outcome) (loadless : g.loaded? intent.request? = none) :
    outcome.state.world.standing = g.world.standing ∨
    ∃ destination r, g.world.CanWalk g.vocabulary intent.primaryTarget? destination ∧
      r.status = .success ∧
      outcome = ⟨g.withWorld (g.world.movePlayer destination.name), r⟩ := by
  cases effect with
  | told r idle quiet => exact Or.inl rfl
  | left action => exact Or.inl rfl
  | paced speed r action success => exact Or.inl rfl
  | hinted action =>
      rw [hint_state]
      exact Or.inl rfl
  | saved asked =>
      rw [saveCommand_state]
      exact Or.inl g.standing_save
  | loaded mode asked =>
      rw [asked] at loadless
      rw [loadCommand_state, load_of_loadless loadless]
      exact Or.inl rfl
  | walked destination r action can success => exact Or.inr ⟨destination, r, can, success, rfl⟩
  | took item r action can success => exact Or.inl (g.world.standing_pickUp item.name)
  | dropped item r action can success => exact Or.inl (g.world.standing_putDown item.name)
  | did deed doing => exact Or.inl (g.world.standing_carryOutDeed deed)

/-- What a line does that loads nothing: it says nothing; or it does something that leaves the
standing alone, or walks; and then the victory is checked. -/
theorem respond_standing_cases (g : Game) (line : String) (fromPlayer : Bool)
    (loadless : g.loaded? (g.request? (.line line fromPlayer)) = none) :
    (g.respond line fromPlayer).state.world = g.world ∨
    (∃ w : World, w.standing = g.world.standing ∧
      (g.respond line fromPlayer).state.world = w.checkVictory) ∨
    ∃ destination,
      g.world.CanWalk g.vocabulary (g.interpret line fromPlayer).1.primaryTarget? destination ∧
      (g.respond line fromPlayer).response.status = .success ∧
      (g.respond line fromPlayer).state.world =
        (g.world.movePlayer destination.name).checkVictory := by
  rcases g.respond_cases line fromPlayer with ⟨_, silent⟩ | ⟨outcome, effect, same⟩
  · rw [silent]
    exact Or.inl rfl
  · have quiet : (g.interpret line fromPlayer).2.loaded?
        (g.interpret line fromPlayer).1.request? = none := by
      rw [interpret_state, loaded?_asked]
      exact loadless
    rw [same]
    rcases effect.standing_cases quiet with still | ⟨destination, r, can, success, walked⟩
    · exact Or.inr (Or.inl ⟨outcome.state.world, still, rfl⟩)
    · rw [walked]
      exact Or.inr (Or.inr ⟨destination, can, success, rfl⟩)

end Game

end TextAdventure
