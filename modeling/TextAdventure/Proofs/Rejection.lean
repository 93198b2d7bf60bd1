import TextAdventure.Proofs.Events

/-!
# A rejected command changes nothing

Each effect that changes a game is told as a success, and a failure leaves everything but the files
alone; these change only in a save that breaks off.
-/

set_option autoImplicit false

namespace TextAdventure

namespace World

@[simp]
theorem status_carryOutDeed (w : World) (deed : Deed) :
    (w.carryOutDeed deed).response.status = .success := by
  cases deed <;> rfl

end World

namespace Game

theorem status_hint (g : Game) : g.hint.response.status = .success := by
  unfold hint
  dsimp only
  split <;> rfl

/-- A save that breaks off leaves all but the files as they were. -/
theorem saveCommand_rejected {g : Game} (rejected : g.saveCommand.response.status ≠ .success) :
    ∃ files, g.saveCommand.state = { g with files := files } := by
  rcases g.saveCommand_cases with
    ⟨saved, r, _, success, same⟩ | ⟨partly, error, r, failed, _, same⟩
  · rw [same] at rejected
    exact absurd success rejected
  · rcases g.save_cases with ⟨files, _, saved⟩ | ⟨files, _, _, broken⟩
    · rw [saved] at failed
      simp at failed
    · rw [broken, Prod.mk.injEq] at failed
      exact ⟨files, by rw [same, failed.1]⟩

theorem loadCommand_rejected {g : Game} {mode : LoadMode}
    (rejected : (g.loadCommand mode).response.status ≠ .success) :
    (g.loadCommand mode).state = g := by
  rcases g.loadCommand_cases mode with
    ⟨loaded, r, _, success, same⟩ | ⟨error, r, _, _, same⟩
  · rw [same] at rejected
    exact absurd success rejected
  · rw [same]

theorem Effect.unchanged {g : Game} {intent : Intent} {outcome : Outcome Game}
    (effect : g.Effect intent outcome) (rejected : outcome.response.status ≠ .success) :
    ∃ files, outcome.state = { g with files := files } ∧
      (intent.action ≠ .saveGame → files = g.files) := by
  cases effect with
  | told r idle quiet => exact ⟨g.files, rfl, fun _ => rfl⟩
  | left action => exact absurd rfl rejected
  | paced speed r action success => exact absurd success rejected
  | hinted action => exact absurd g.status_hint rejected
  | saved asked =>
      obtain ⟨files, same⟩ := saveCommand_rejected rejected
      refine ⟨files, same, fun other => ?_⟩
      have saving : intent.action = .saveGame := by
        cases action : intent.action <;> simp_all [Intent.request?]
      exact absurd saving other
  | loaded mode asked => exact ⟨g.files, loadCommand_rejected rejected, fun _ => rfl⟩
  | walked destination r action can success => exact absurd success rejected
  | took item r action can success => exact absurd success rejected
  | dropped item r action can success => exact absurd success rejected
  | did deed doing => exact absurd (g.world.status_carryOutDeed deed) rejected

/-- An intent that is rejected leaves all but the files as they were, and the files as well unless
it asked for a save.  A line that is rejected also uses up the answers to its questions, and the
player may win after it. -/
theorem rejected_changes_nothing (g : Game) :
    (∀ intent, (g.carryOut intent).response.status ≠ .success →
      ∃ files, (g.carryOut intent).state = { g with files := files } ∧
        (intent.action ≠ .saveGame → files = g.files)) ∧
    (∀ line fromPlayer, (g.respond line fromPlayer).response.status ≠ .success →
      ∃ files won dirty, (g.respond line fromPlayer).state =
          { g with
            world := { g.world with player := { g.world.player with won := won }, dirty := dirty }
            files := files
            dialogue := (g.interpret line fromPlayer).2.dialogue } ∧
        (g.respond line fromPlayer).state.world = g.world.checkVictory ∧
        ((g.interpret line fromPlayer).1.action ≠ .saveGame → files = g.files)) := by
  refine ⟨fun intent rejected => (carryOut_effect g intent).unchanged rejected, ?_⟩
  intro line fromPlayer rejected
  rcases g.respond_cases line fromPlayer with ⟨_, silent⟩ | ⟨outcome, effect, same⟩
  · rw [silent] at rejected
    exact absurd rfl rejected
  · rw [same] at rejected
    obtain ⟨files, kept, untouched⟩ := effect.unchanged rejected
    have victory : (g.respond line fromPlayer).state =
        { g with
          world := g.world.checkVictory
          files := files
          dialogue := (g.interpret line fromPlayer).2.dialogue } := by
      rw [same, kept]
      rfl
    rcases g.world.checkVictory_cases with still | won
    · refine ⟨files, g.world.player.won, g.world.dirty, ?_, by rw [victory], untouched⟩
      rw [victory, still]
    · refine ⟨files, true, true, ?_, by rw [victory], untouched⟩
      rw [victory, won]

end Game

namespace PickleQuest

/-- The doormat is fixed in its place. -/
theorem doormat_stays :
    let taking : Intent := ⟨.take, [some "doormat"]⟩
    (game.carryOut taking).response.status ≠ .success ∧
      (∃ files, (game.carryOut taking).state = { game with files := files }) ∧
      (game.respond "take doormat" true).response.status ≠ .success ∧
      (game.respond "take doormat" true).state.world = game.world.checkVictory := by
  intro taking
  have intentRejected : (game.carryOut taking).response.status ≠ .success := by decide +kernel
  have lineRejected : (game.respond "take doormat" true).response.status ≠ .success := by
    decide +kernel
  have unchanged := game.rejected_changes_nothing
  obtain ⟨files, same, _⟩ := unchanged.1 taking intentRejected
  obtain ⟨_, _, _, _, victory, _⟩ := unchanged.2 "take doormat" true lineRejected
  exact ⟨intentRejected, ⟨files, same⟩, lineRejected, victory⟩

end PickleQuest

end TextAdventure
