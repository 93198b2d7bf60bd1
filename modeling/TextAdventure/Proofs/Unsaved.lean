import TextAdventure.Proofs.Events
import TextAdventure.Proofs.RecordText

/-!
# No unsaved progress is hidden

While the mark for unsaved changes is not set, what a save would keep is what the last load or save
left.  Each event marks the world, or comes down to a load or save, or leaves the mark and the kept
part as they were; a run is an induction over this.
-/

set_option autoImplicit false

namespace TextAdventure

theorem Objective.persisted_revealHint (objective : Objective) :
    objective.revealHint.persisted = objective.persisted := rfl

namespace World

theorem persisted_revealHint (w : World) (isOpen : Objective → Bool) :
    persisted { w with objectives := updateFirst isOpen Objective.revealHint w.objectives } =
      w.persisted := by
  have hidden : (updateFirst isOpen Objective.revealHint w.objectives).map Objective.persisted =
      w.objectives.map Objective.persisted :=
    map_updateFirst Objective.persisted Objective.persisted_revealHint w.objectives
  simp only [persisted, hidden]

theorem player_persisted (w : World) : w.persisted.player = w.player := rfl

theorem dirty_movePlayer (w : World) (room : String) : (w.movePlayer room).dirty = true := rfl

theorem dirty_pickUp (w : World) (item : String) : (w.pickUp item).dirty = true := rfl

theorem dirty_putDown (w : World) (item : String) : (w.putDown item).dirty = true := rfl

theorem dirty_carryOutDeed (w : World) (deed : Deed) :
    (w.carryOutDeed deed).state.dirty = true := by
  cases deed <;> rfl

end World

namespace Game

/-- The world after the last load or save of a run, or the given one if there was none. -/
def lastCheckpoint (g : Game) (start : World) : List Event → World
  | [] => start
  | event :: rest => (g.after event).lastCheckpoint ((g.checkpoint? event).getD start) rest

/-- What an event makes of a world: it is marked, or it is the one that was loaded or saved, or it
has the mark and the kept part of the old one. -/
inductive Accounts (before : World) (checkpoint? : Option World) (after : World) : Prop
  | marked (dirty : after.dirty = true)
  | served (same : checkpoint? = some after)
  | kept (quiet : checkpoint? = none) (mark : after.dirty = before.dirty)
      (same : after.persisted = before.persisted)

theorem Accounts.unchanged {w : World} {checkpoint? : Option World} (quiet : checkpoint? = none) :
    Accounts w checkpoint? w :=
  .kept quiet rfl rfl

theorem Accounts.later {before after last : World} {checkpoint? : Option World}
    (accounts : Accounts before checkpoint? after) (h : last = after ∨ last.dirty = true) :
    Accounts before checkpoint? last := by
  rcases h with same | dirty
  · rw [same]
    exact accounts
  · exact .marked dirty

theorem accounts_save (g : Game) : Accounts g.world (g.serve? .save) g.save.1.world := by
  rcases g.save_cases with ⟨files, _, saved⟩ | ⟨files, error, _, failed⟩
  · exact .served (by simp [serve?, saved])
  · rw [failed]
    exact .unchanged (by simp [serve?, failed])

theorem accounts_load (g : Game) (mode : LoadMode) :
    Accounts g.world (g.serve? (.load mode)) (g.after (.load mode)).world := by
  rcases g.load_cases mode with ⟨w, _, loaded⟩ | ⟨error, _, failed⟩
  · exact .served (by simp [serve?, after, loaded, Except.toOption])
  · rw [after, failed]
    exact .unchanged (by simp [serve?, failed, Except.toOption])

theorem Effect.accounts {g : Game} {intent : Intent} {outcome : Outcome Game}
    (effect : g.Effect intent outcome) :
    Accounts g.world (intent.request?.bind g.serve?) outcome.state.world := by
  cases effect with
  | told r idle quiet => exact .unchanged (by simp [quiet])
  | left action => exact .unchanged (by simp [Intent.request?, action])
  | paced speed r action success => exact .unchanged (by simp [Intent.request?, action])
  | hinted action =>
      rw [hint_state]
      exact .kept (by simp [Intent.request?, action]) rfl (g.world.persisted_revealHint _)
  | saved asked =>
      rw [asked, saveCommand_state]
      exact g.accounts_save
  | loaded mode asked =>
      rw [asked, loadCommand_state]
      exact g.accounts_load mode
  | walked destination r action can success => exact .marked (World.dirty_movePlayer _ _)
  | took item r action can success => exact .marked (World.dirty_pickUp _ _)
  | dropped item r action can success => exact .marked (World.dirty_putDown _ _)
  | did deed doing => exact .marked (World.dirty_carryOutDeed _ _)

theorem accounts_line (g : Game) (line : String) (fromPlayer : Bool) :
    Accounts g.world (g.checkpoint? (.line line fromPlayer))
      (g.after (.line line fromPlayer)).world := by
  -- Whether a load was declined is known only after the question, so the request is met there.
  have asked : g.checkpoint? (.line line fromPlayer) =
      (g.interpret line fromPlayer).1.request?.bind (g.interpret line fromPlayer).2.serve? := by
    rw [interpret_state, funext (g.serve?_asked _)]
    rfl
  simp only [asked, after]
  rcases g.respond_cases line fromPlayer with ⟨silent, same⟩ | ⟨outcome, effect, same⟩
  · rw [same, (silent_idle silent g.world).1]
    exact .unchanged rfl
  · rw [same]
    refine effect.accounts.later ?_
    rcases outcome.state.world.checkVictory_cases with still | won
    · exact Or.inl still
    · exact Or.inr (congrArg World.dirty won)

theorem accounts_after (g : Game) (event : Event) :
    Accounts g.world (g.checkpoint? event) (g.after event).world := by
  cases event with
  | line line fromPlayer => exact g.accounts_line line fromPlayer
  | turn line =>
      rw [after_turn]
      refine Accounts.later (g.accounts_line line true) ?_
      rcases (g.after (.line line true)).rollCredits_cases with still | rolled
      · exact Or.inl (congrArg Game.world still)
      · exact Or.inr (by rw [rolled]; rfl)
  | save => exact g.accounts_save
  | load mode => exact g.accounts_load mode
  | closing =>
      rcases g.after_closing with ⟨clean, same⟩ | ⟨dirty, dialogue, _, same⟩
      · rw [same]
        exact .unchanged (by simp [checkpoint?, request?, clean])
      · cases yes : (g.confirm Reply.savePrompt).1 with
        | false =>
            simp only [yes, Bool.false_eq_true, if_false] at same
            rw [same]
            exact .marked dirty
        | true =>
            simp only [yes, if_true] at same
            have saving : g.checkpoint? .closing = g.serve? .save := by
              simp [checkpoint?, request?, dirty, yes]
            rw [same, saving, ← g.serve?_asked dialogue]
            exact accounts_save { g with dialogue := dialogue }

/-- The invariant of a run: a world without the mark is kept whole by the last checkpoint. -/
def Covered (w checkpoint : World) : Prop :=
  w.dirty = false → w.persisted = checkpoint.persisted

theorem Covered.after {g : Game} {checkpoint : World} (covered : Covered g.world checkpoint)
    (event : Event) : Covered (g.after event).world ((g.checkpoint? event).getD checkpoint) := by
  intro clean
  cases g.accounts_after event with
  | marked dirty =>
      rw [dirty] at clean
      contradiction
  | served same =>
      rw [same]
      rfl
  | kept quiet mark same =>
      rw [quiet, same]
      exact covered (mark ▸ clean)

theorem Covered.run (events : List Event) {g : Game} {checkpoint : World}
    (covered : Covered g.world checkpoint) :
    Covered (g.run events).world (g.lastCheckpoint checkpoint events) := by
  induction events generalizing g checkpoint with
  | nil => exact covered
  | cons event rest ih => exact ih (covered.after event)

/-- In every run that begins with a load or save that succeeds, a world without the mark for
unsaved changes has the kept part of the last world loaded or saved; and where the kept part
differs, closing asks whether to save. -/
theorem unsaved_progress_is_marked (g : Game) (first : Event) (start : World)
    (begun : g.checkpoint? first = some start) (events : List Event) :
    let now := (g.after first).run events
    let checkpoint := (g.after first).lastCheckpoint start events
    (now.world.dirty = false → now.world.persisted = checkpoint.persisted) ∧
      (now.world.persisted ≠ checkpoint.persisted →
        (now.after .closing).dialogue.asked = now.dialogue.asked ++ [Reply.savePrompt]) := by
  intro now checkpoint
  have covered : Covered now.world checkpoint := by
    refine Covered.run events ?_
    intro clean
    cases g.accounts_after first with
    | marked dirty =>
        rw [dirty] at clean
        contradiction
    | served same =>
        rw [begun] at same
        rw [Option.some.inj same]
    | kept quiet _ _ =>
        rw [begun] at quiet
        contradiction
  refine ⟨covered, fun differs => ?_⟩
  rcases now.after_closing with ⟨clean, _⟩ | ⟨_, dialogue, asked, same⟩
  · exact absurd (covered clean) differs
  · rw [same]
    split
    · rcases ({ now with dialogue := dialogue } : Game).save_cases with
        ⟨files, _, saved⟩ | ⟨files, error, _, failed⟩
      · rw [saved]
        exact asked
      · rw [failed]
        exact asked
    · exact asked

end Game

namespace PickleQuest

/-- Walking to the kitchen after a save is noticed when the game is closed. -/
theorem walk_is_marked :
    game.checkpoint? .save = some game.save.1.world ∧
      (((game.after .save).run [.line "go north" true]).after .closing).dialogue.asked =
        ((game.after .save).run [.line "go north" true]).dialogue.asked ++ [Reply.savePrompt] := by
  have success : game.save.2 = none := by decide +kernel
  have begun : game.checkpoint? .save = some game.save.1.world := by
    simp [Game.checkpoint?, Game.request?, Game.serve?, success]
  have quiet : (game.after .save).request? (.line "go north" true) = none := by decide +kernel
  have unsaved : (game.after .save).lastCheckpoint game.save.1.world [.line "go north" true] =
      game.save.1.world := by
    rw [Game.lastCheckpoint, Game.lastCheckpoint, Game.checkpoint?, quiet]
    rfl
  have walked : ((game.after .save).run [.line "go north" true]).world.player.location ≠
      game.save.1.world.player.location := by
    decide +kernel
  refine ⟨begun, (game.unsaved_progress_is_marked .save _ begun _).2 fun same => walked ?_⟩
  rw [unsaved] at same
  have players := congrArg World.player same
  rw [World.player_persisted, World.player_persisted] at players
  rw [players]

end PickleQuest

end TextAdventure
