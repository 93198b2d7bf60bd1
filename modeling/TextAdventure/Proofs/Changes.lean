import TextAdventure.Proofs.Markers

/-!
# What a line can change in a world

An event that loads nothing does one of six things to the world, each with all that the code checked
before it.  After that it can only set the marks: that the game is won, that the credits have been
rolled, and whether there is something to save.  What is claimed of every event splits on these
cases, and what is claimed of a run is an induction over its events.  A deed is the longest of the
six; a preorder that holds across each of its steps holds across it.
-/

set_option autoImplicit false

namespace TextAdventure

/-! ## The steps of a deed -/

namespace Deed

/-- What a deed performs, each interaction with the name of the item that it is performed on. -/
def interactions : Deed → List (String × Interaction)
  | single item _ i => [(item, i)]
  | paired first second i j => [(first, i), (second, j)]

/-- Each step of a deed stays within a preorder of worlds. -/
structure StaysWithin (deed : Deed) (R : World → World → Prop) : Prop where
  refl : ∀ w, R w w
  trans : ∀ {before middle after}, R before middle → R middle after → R before after
  effects : ∀ w {name} action {i}, (name, i) ∈ deed.interactions →
    R w (w.applyEffects name action i)
  reveal : ∀ w i, R w (w.reveal i)
  removal : ∀ w name, R w (w.removeNearby name)
  production : ∀ w name, R w (w.produce name)
  touch : ∀ w, R w w.touch

namespace StaysWithin

variable {deed : Deed} {R : World → World → Prop}

theorem applyTransform (within : deed.StaysWithin R) (w : World) (t : Transform) :
    R w (w.applyTransform t) := by
  obtain ⟨source, result⟩ := t
  cases source with
  | none =>
      cases result with
      | none => exact within.refl w
      | some made => exact within.production w made
  | some used =>
      have consumed : R w (w.consume used) := within.removal w used
      cases result with
      | none => exact consumed
      | some made => exact within.trans consumed (within.production _ made)

theorem applyTransforms (within : deed.StaysWithin R) (w : World) (ts : List Transform) :
    R w (w.applyTransforms ts) := by
  induction ts generalizing w with
  | nil => exact within.refl w
  | cons t rest ih => exact within.trans (within.applyTransform w t) (ih (w.applyTransform t))

theorem carryOut (within : deed.StaysWithin R) (w : World) :
    R w (w.carryOutDeed deed).state := by
  cases deed with
  | single item action i =>
      have listed : (item, i) ∈ (single item action i).interactions := List.mem_cons_self
      have told := within.effects w action listed
      have shown := within.trans told (within.reveal _ i)
      have made := within.trans shown (within.applyTransforms _ i.transforms)
      exact within.trans made (within.touch _)
  | paired first second i j =>
      -- Both halves are told of and shown, but only the first is transformed.
      have ofFirst : (first, i) ∈ (paired first second i j).interactions := List.mem_cons_self
      have ofSecond : (second, j) ∈ (paired first second i j).interactions :=
        List.mem_cons_of_mem _ List.mem_cons_self
      have told := within.trans (within.effects w World.pairedUse ofFirst)
        (within.effects _ World.pairedUse ofSecond)
      have shown := within.trans (within.trans told (within.reveal _ i)) (within.reveal _ j)
      have made := within.trans shown (within.applyTransforms _ i.transforms)
      exact within.trans made (within.touch _)

end StaysWithin

end Deed

namespace World

/-! ## The marks -/

/-- The world with other marks of winning, of the credits and of what there is to save. -/
def marked (w : World) (won watched dirty : Bool) : World :=
  { w with player := { w.player with won := won, watchedCredits := watched }, dirty := dirty }

/-- Only the marks differ, and neither the win nor the credits have been taken back. -/
def Marks (before after : World) : Prop :=
  ∃ won watched dirty, (before.player.won = true → won = true) ∧
    (before.player.watchedCredits = true → watched = true) ∧
    after = before.marked won watched dirty

theorem Marks.refl (w : World) : w.Marks w :=
  ⟨w.player.won, w.player.watchedCredits, w.dirty, id, id, rfl⟩

theorem Marks.trans {before middle after : World} (early : before.Marks middle)
    (late : middle.Marks after) : before.Marks after := by
  obtain ⟨won, watched, dirty, keptWin, keptCredits, rfl⟩ := early
  obtain ⟨laterWon, laterWatched, laterDirty, laterWin, laterCredits, rfl⟩ := late
  exact ⟨laterWon, laterWatched, laterDirty, fun before => laterWin (keptWin before),
    fun before => laterCredits (keptCredits before), rfl⟩

theorem marks_checkVictory (w : World) : w.Marks w.checkVictory := by
  rcases w.checkVictory_cases with still | won
  · rw [still]
    exact Marks.refl w
  · rw [won]
    exact ⟨true, w.player.watchedCredits, true, fun _ => rfl, id, rfl⟩

/-! ## The changes -/

/-- What an intent that loads nothing makes of a world, marks aside. -/
inductive Alters (w : World) (v : Vocabulary) (intent : Intent) (response : Response) : World → Prop
  | nothing : Alters w v intent response w
  /-- A hint is revealed of the first open objective. -/
  | hinted : Alters w v intent response
      { w with
        objectives := updateFirst (fun objective => !w.complete objective) Objective.revealHint
          w.objectives }
  | walked (destination : Room) (action : intent.action = .move)
      (can : w.CanWalk v intent.primaryTarget? destination) (success : response.status = .success) :
      Alters w v intent response (w.movePlayer destination.name)
  | took (item : Item) (action : intent.action = .take)
      (can : w.CanTake intent.primaryTarget? item) (success : response.status = .success) :
      Alters w v intent response (w.pickUp item.name)
  | dropped (item : Item) (action : intent.action = .drop)
      (can : w.CanDrop intent.primaryTarget? item) (success : response.status = .success) :
      Alters w v intent response (w.putDown item.name)
  | did (deed : Deed) (doing : w.deed? intent = some deed) (success : response.status = .success) :
      Alters w v intent response (w.carryOutDeed deed).state

end World

namespace Game

open World

theorem marks_save (g : Game) : g.world.Marks g.save.1.world := by
  rcases g.save_cases with ⟨files, _, saved⟩ | ⟨files, error, _, failed⟩
  · rw [saved]
    exact ⟨g.world.player.won, g.world.player.watchedCredits, false, id, id, rfl⟩
  · rw [failed]
    exact Marks.refl _

theorem marks_rollCredits (g : Game) : g.world.Marks g.rollCredits.2.world := by
  rcases g.rollCredits_cases with still | rolled
  · rw [still]
    exact Marks.refl _
  · rw [rolled]
    exact ⟨g.world.player.won, true, true, id, fun _ => rfl, rfl⟩

theorem marks_closing (g : Game) : g.world.Marks (g.after .closing).world := by
  rcases g.after_closing with ⟨_, same⟩ | ⟨_, dialogue, _, same⟩
  · rw [same]
    exact Marks.refl _
  · rw [same]
    split
    · exact marks_save { g with dialogue := dialogue }
    · exact Marks.refl _

/-- An effect without a load alters the world in one of the six ways, and sets marks at most. -/
theorem Effect.alters {g : Game} {intent : Intent} {outcome : Outcome Game}
    (effect : g.Effect intent outcome) (loadless : g.loaded? intent.request? = none) :
    ∃ w, g.world.Alters g.vocabulary intent outcome.response w ∧
      w.Marks outcome.state.world := by
  cases effect with
  | told r idle quiet => exact ⟨_, .nothing, Marks.refl _⟩
  | left action => exact ⟨_, .nothing, Marks.refl _⟩
  | paced speed r action success => exact ⟨_, .nothing, Marks.refl _⟩
  | hinted action =>
      rw [hint_state]
      exact ⟨_, .hinted, Marks.refl _⟩
  | saved asked =>
      rw [saveCommand_state]
      exact ⟨_, .nothing, g.marks_save⟩
  | loaded mode asked =>
      rw [asked] at loadless
      rw [loadCommand_state, load_of_loadless loadless]
      exact ⟨_, .nothing, Marks.refl _⟩
  | walked destination r action can success =>
      exact ⟨_, .walked destination action can success, Marks.refl _⟩
  | took item r action can success => exact ⟨_, .took item action can success, Marks.refl _⟩
  | dropped item r action can success => exact ⟨_, .dropped item action can success, Marks.refl _⟩
  | did deed doing =>
      have success := g.world.status_carryOutDeed deed
      exact ⟨_, .did deed doing success, Marks.refl _⟩

theorem alters_line (g : Game) (line : String) (fromPlayer : Bool)
    (loadless : g.loaded? (g.request? (.line line fromPlayer)) = none) :
    ∃ w, g.world.Alters g.vocabulary (g.interpret line fromPlayer).1
        (g.respond line fromPlayer).response w ∧
      w.Marks (g.respond line fromPlayer).state.world := by
  rcases g.respond_cases line fromPlayer with ⟨_, silent⟩ | ⟨outcome, effect, same⟩
  · rw [silent]
    exact ⟨_, .nothing, Marks.refl _⟩
  · -- The line is carried out after the questions that reading it took, and these change no load.
    have quiet : (g.interpret line fromPlayer).2.loaded?
        (g.interpret line fromPlayer).1.request? = none := by
      rw [interpret_state, loaded?_asked]
      exact loadless
    obtain ⟨w, alters, marks⟩ := effect.alters quiet
    rw [same]
    exact ⟨w, alters, marks.trans outcome.state.world.marks_checkVictory⟩

/-- What an event does that loads nothing: it sets marks at most; or it is read as a line that
alters the world in one of the six ways, and sets marks after that. -/
theorem after_cases (g : Game) {event : Event} (loadless : g.loaded? (g.request? event) = none) :
    g.world.Marks (g.after event).world ∨
    ∃ intent response w, g.intent? event = some intent ∧ g.reply? event = some response ∧
      g.world.Alters g.vocabulary intent response w ∧ w.Marks (g.after event).world := by
  cases event with
  | line text fromPlayer =>
      obtain ⟨w, alters, marks⟩ := g.alters_line text fromPlayer loadless
      exact Or.inr ⟨_, _, w, rfl, rfl, alters, marks⟩
  | turn text =>
      obtain ⟨w, alters, marks⟩ := g.alters_line text true loadless
      rw [after_turn]
      exact Or.inr ⟨_, _, w, rfl, rfl, alters, marks.trans (marks_rollCredits _)⟩
  | save => exact Or.inl g.marks_save
  | load mode =>
      rw [load_of_loadless loadless]
      exact Or.inl (Marks.refl _)
  | closing => exact Or.inl g.marks_closing

/-! ## Loads -/

/-- An intent that asks for a load is carried out by loading. -/
theorem carryOut_load {intent : Intent} {mode : LoadMode}
    (asked : intent.request? = some (.load mode)) (g : Game) :
    g.carryOut intent = g.loadCommand mode := by
  have loads : intent.action = .loadGame ∧ mode = .resume ∨
      intent.action = .newGame ∧ mode = .new := by
    unfold Intent.request? at asked
    split at asked <;> simp_all
  rcases loads with ⟨action, rfl⟩ | ⟨action, rfl⟩
  · simp only [carryOut, carryOutHousekeeping, action, Action.group?]
  · simp only [carryOut, carryOutHousekeeping, action, Action.group?]

theorem loaded?_eq_some {g : Game} {request? : Option Request} {w : World} :
    g.loaded? request? = some w ↔ ∃ mode read, request? = some (.load mode) ∧
      World.load g.files (g.directories.world mode) = .ok read ∧
      w = { read with dirty := false } := by
  constructor
  · intro loaded
    match request? with
    | some (.load mode) =>
        rcases g.load_cases mode with ⟨read, done, loads⟩ | ⟨error, _, failed⟩
        · have same : { read with dirty := false } = w := by
            simpa [loaded?, serve?, loads, Except.toOption, withWorld] using loaded
          exact ⟨mode, read, rfl, done, same.symm⟩
        · simp [loaded?, serve?, failed, Except.toOption] at loaded
  · rintro ⟨mode, read, rfl, done, rfl⟩
    rcases g.load_cases mode with ⟨other, done', loads⟩ | ⟨error, failed, _⟩
    · rw [done] at done'
      cases done'
      rw [loaded?, serve?, loads]
      rfl
    · rw [done] at failed
      contradiction

theorem marks_load {g : Game} {mode : LoadMode} {w : World}
    (loaded : g.loaded? (some (.load mode)) = some w) :
    w.Marks (g.after (.load mode)).world := by
  have after : (g.after (.load mode)).world = w := by
    rw [Game.after]
    unfold loaded? serve? at loaded
    cases loads : g.load mode with
    | error error => simp [loads, Except.toOption] at loaded
    | ok read => simpa [loads, Except.toOption] using loaded
  rw [after]
  exact Marks.refl w

theorem marks_loaded_line {g : Game} {line : String} {fromPlayer : Bool} {w : World}
    (loaded : g.loaded? (g.request? (.line line fromPlayer)) = some w) :
    w.Marks (g.respond line fromPlayer).state.world := by
  obtain ⟨mode, _, asked, _⟩ := loaded?_eq_some.mp loaded
  have heard : (g.interpret line fromPlayer).1.request? = some (.load mode) := asked
  have group : (g.interpret line fromPlayer).1.action.group? = some .housekeeping := by
    refine Decidable.byContradiction fun other => ?_
    rw [request?_eq_none other] at heard
    contradiction
  have loads : (g.interpret line fromPlayer).2.loaded? (some (.load mode)) = some w := by
    rw [interpret_state, loaded?_asked, ← asked]
    exact loaded
  have marks := marks_load loads
  rw [← loadCommand_state, ← carryOut_load heard] at marks
  rw [g.respond_carryOut line fromPlayer (by rw [group]; decide)]
  exact marks.trans (marks_checkVictory _)

/-- An event that loads a world leaves that world, and sets marks at most. -/
theorem marks_loaded {g : Game} {event : Event} {w : World}
    (loaded : g.loaded? (g.request? event) = some w) : w.Marks (g.after event).world := by
  cases event with
  | line text fromPlayer => exact marks_loaded_line loaded
  | turn text =>
      rw [after_turn]
      exact (marks_loaded_line loaded).trans (marks_rollCredits _)
  | save => simp [request?, loaded?] at loaded
  | load mode => exact marks_load loaded
  | closing =>
      obtain ⟨mode, _, asked, _⟩ := loaded?_eq_some.mp loaded
      exact absurd asked (g.request?_closing mode)

/-- What the marks do not touch holds after an event if the change or the load that it makes keeps
it. -/
theorem holds_after {P : World → Prop} {g : Game} {event : Event} (holds : P g.world)
    (marks : ∀ before after, P before → before.Marks after → P after)
    (alters : ∀ intent response w, g.world.Alters g.vocabulary intent response w → P w)
    (loads : ∀ w, g.loaded? (g.request? event) = some w → P w) : P (g.after event).world := by
  cases loaded : g.loaded? (g.request? event) with
  | none =>
      rcases g.after_cases loaded with marked | ⟨intent, response, w, _, _, altered, marked⟩
      · exact marks _ _ holds marked
      · exact marks _ _ (alters intent response w altered) marked
  | some w => exact marks _ _ (loads w loaded) (marks_loaded loaded)

/-! ## Runs -/

instance decidableLoadless (g : Game) : (events : List Event) → Decidable (g.Loadless events)
  | [] => inferInstanceAs (Decidable True)
  | event :: rest =>
      have := decidableLoadless (g.after event) rest
      inferInstanceAs (Decidable (_ ∧ _))

/-- Something happens at some event of a run. -/
def Sometime (g : Game) (happens : Game → Event → Prop) : List Event → Prop
  | [] => False
  | event :: rest => happens g event ∨ (g.after event).Sometime happens rest

end Game

end TextAdventure
