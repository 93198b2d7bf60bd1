import TextAdventure.Proofs.Standing

/-!
# Winning and the credits

The win is a latch that is set by the check after a line and reset by nothing but a load; the
credits are rolled in the turn in which the win is seen first.  Over a run without a load the
endings that were told and the mark of the credits balance: each ending sets the mark, and nothing
unsets it.
-/

set_option autoImplicit false

namespace TextAdventure

namespace World

/-! ## The check -/

theorem won_of_complete {w : World} (some_ : w.checkVictory.objectives ≠ [])
    (complete : w.checkVictory.allComplete = true) : w.checkVictory.player.won = true := by
  by_cases wins : (!w.player.won && !w.objectives.isEmpty && w.allComplete) = true
  · rw [checkVictory, if_pos wins]
    rfl
  · have still : w.checkVictory = w := by rw [checkVictory, if_neg wins]
    rw [still] at some_ complete ⊢
    simpa [some_, complete] using wins

theorem complete_of_won {w : World} (won : w.checkVictory.player.won = true) :
    w.player.won = true ∨
      (w.checkVictory.objectives ≠ [] ∧ w.checkVictory.allComplete = true) := by
  by_cases wins : (!w.player.won && !w.objectives.isEmpty && w.allComplete) = true
  · have winner : w.checkVictory =
        { w with player := { w.player with won := true }, dirty := true } := by
      rw [checkVictory, if_pos wins]
      rfl
    simp only [Bool.and_eq_true, Bool.not_eq_true', List.isEmpty_eq_false_iff] at wins
    rw [winner]
    exact Or.inr ⟨wins.1.2, wins.2⟩
  · have still : w.checkVictory = w := by rw [checkVictory, if_neg wins]
    rw [still] at won
    exact Or.inl won

theorem won_checkVictory {w : World} (won : w.player.won = true) :
    w.checkVictory.player.won = true := by
  rcases w.checkVictory_cases with still | winner
  · rw [still]
    exact won
  · rw [winner]

end World

namespace Game

/-! ## One turn -/

/-- What a turn tells after its response. -/
def appended (g : Game) (line : String) : Printout := (g.takeTurn line).1.tail

theorem takeTurn_eq (g : Game) (line : String) :
    g.takeTurn line =
      (((g.respond line true).response, (g.respond line true).state.speed) ::
        (g.respond line true).state.rollCredits.1, (g.respond line true).state.rollCredits.2) := by
  rw [takeTurn]

/-- The credits change neither the objectives nor what is complete, and not the win. -/
theorem score_rollCredits (g : Game) :
    g.rollCredits.2.world.objectives = g.world.objectives ∧
      g.rollCredits.2.world.allComplete = g.world.allComplete ∧
      g.rollCredits.2.world.player.won = g.world.player.won := by
  rcases g.rollCredits_cases with still | rolled
  · rw [still]
    exact ⟨rfl, rfl, rfl⟩
  · rw [rolled]
    exact ⟨rfl, rfl, rfl⟩

theorem watched_of_won {g : Game} (won : g.rollCredits.2.world.player.won = true) :
    g.rollCredits.2.world.player.watchedCredits = true := by
  by_cases rolls : (g.world.player.won && !g.world.player.watchedCredits) = true
  · rw [rollCredits, if_pos rolls]
    rfl
  · rw [g.score_rollCredits.2.2] at won
    rw [rollCredits, if_neg rolls]
    simpa [won] using rolls

theorem credits_balance (g : Game) :
    g.rollCredits.1.length + g.world.player.watchedCredits.toNat =
      g.rollCredits.2.world.player.watchedCredits.toNat := by
  by_cases rolls : (g.world.player.won && !g.world.player.watchedCredits) = true
  · have unwatched : g.world.player.watchedCredits = false := by
      simp only [Bool.and_eq_true, Bool.not_eq_true'] at rolls
      exact rolls.2
    rw [rollCredits, if_pos rolls, unwatched]
    rfl
  · rw [rollCredits, if_neg rolls]
    exact Nat.zero_add _

/-- A line that loads nothing keeps the win and the mark of the credits up to the check. -/
theorem respond_checked {g : Game} {line : String} {fromPlayer : Bool}
    (loadless : g.loaded? (g.request? (.line line fromPlayer)) = none) :
    (g.respond line fromPlayer).state.world = g.world ∨
    ∃ w : World, w.player.won = g.world.player.won ∧
      w.player.watchedCredits = g.world.player.watchedCredits ∧
      (g.respond line fromPlayer).state.world = w.checkVictory := by
  rcases g.respond_standing_cases line fromPlayer loadless with
    same | ⟨w, still, same⟩ | ⟨destination, _, _, same⟩
  · exact Or.inl same
  · exact Or.inr ⟨w, World.won_of_standing still, World.watchedCredits_of_standing still, same⟩
  · exact Or.inr ⟨g.world.movePlayer destination.name, rfl, rfl, same⟩

theorem watchedCredits_respond {g : Game} {line : String} {fromPlayer : Bool}
    (loadless : g.loaded? (g.request? (.line line fromPlayer)) = none) :
    (g.respond line fromPlayer).state.world.player.watchedCredits =
      g.world.player.watchedCredits := by
  rcases respond_checked loadless with same | ⟨w, _, watched, same⟩
  · rw [same]
  · rw [same, w.checkVictory_keeps.2.2, watched]

/-- What a turn does to the win and the credits. -/
structure TurnScore (before : Game) (line : String) : Prop where
  checked : (before.interpret line true).1.isSilent = false →
    (before.takeTurn line).2.world.objectives ≠ [] →
    (before.takeTurn line).2.world.allComplete = true →
    (before.takeTurn line).2.world.player.won = true
  earned : before.loaded? (before.request? (.turn line)) = none →
    before.world.player.won = false → (before.takeTurn line).2.world.player.won = true →
    (before.takeTurn line).2.world.objectives ≠ [] ∧
      (before.takeTurn line).2.world.allComplete = true
  kept : before.loaded? (before.request? (.turn line)) = none →
    before.world.player.won = true → (before.takeTurn line).2.world.player.won = true
  watched : (before.takeTurn line).2.world.player.won = true →
    (before.takeTurn line).2.world.player.watchedCredits = true
  told : (before.takeTurn line).1 =
    ((before.respond line true).response, (before.respond line true).state.speed) ::
      if (before.respond line true).state.world.player.won = true ∧
          (before.respond line true).state.world.player.watchedCredits = false then
        [((before.respond line true).state.story (some "ending"), .slow)]
      else []

theorem turnScore (g : Game) (line : String) : TurnScore g line := by
  obtain ⟨objectives, complete, won⟩ := (g.respond line true).state.score_rollCredits
  refine ⟨?checked, ?earned, ?kept, ?watched, ?told⟩
  case checked =>
      intro speaks
      rw [takeTurn_eq, objectives, complete, won]
      rcases g.respond_cases line true with ⟨silent, _⟩ | ⟨outcome, _, same⟩
      · rw [speaks] at silent
        exact absurd silent Bool.false_ne_true
      · rw [same]
        exact World.won_of_complete
  case earned =>
      intro loadless lost
      rw [takeTurn_eq, objectives, complete, won]
      rcases respond_checked loadless with same | ⟨w, before, _, same⟩
      · rw [same, lost]
        exact fun wins => nomatch wins
      · rw [same]
        intro wins
        refine (World.complete_of_won wins).resolve_left ?_
        rw [before, lost]
        exact Bool.false_ne_true
  case kept =>
      intro loadless wins
      rw [takeTurn_eq, won]
      rcases respond_checked loadless with same | ⟨w, before, _, same⟩
      · rw [same]
        exact wins
      · rw [same]
        exact World.won_checkVictory (before.trans wins)
  case watched =>
      rw [takeTurn_eq]
      exact watched_of_won
  case told =>
      rw [takeTurn_eq, rollCredits]
      by_cases rolls : (g.respond line true).state.world.player.won = true ∧
          (g.respond line true).state.world.player.watchedCredits = false
      · simp [rolls]
      · have still : ((g.respond line true).state.world.player.won &&
            !(g.respond line true).state.world.player.watchedCredits) = false := by
          simpa using rolls
        simp [rolls, still]

/-! ## Runs of turns -/

/-- The states of a run of turns, each with the line that is taken there. -/
def turns (g : Game) : List String → List (Game × String)
  | [] => []
  | line :: rest => (g, line) :: (g.after (.turn line)).turns rest

theorem appended_balance {g : Game} {line : String}
    (loadless : g.loaded? (g.request? (.turn line)) = none) :
    (g.appended line).length + g.world.player.watchedCredits.toNat =
      (g.after (.turn line)).world.player.watchedCredits.toNat := by
  have balance := (g.respond line true).state.credits_balance
  rw [watchedCredits_respond loadless] at balance
  rw [after_turn, appended, takeTurn_eq, List.tail_cons]
  exact balance

theorem appended_balance_run (lines : List String) {g : Game}
    (loadless : g.Loadless (lines.map .turn)) :
    ((g.turns lines).flatMap fun turn => turn.1.appended turn.2).length +
        g.world.player.watchedCredits.toNat =
      (g.run (lines.map .turn)).world.player.watchedCredits.toNat := by
  induction lines generalizing g with
  | nil => exact Nat.zero_add _
  | cons line rest ih =>
      have first := appended_balance loadless.1
      have others := ih loadless.2
      simp only [turns, List.flatMap_cons, List.length_append, List.map_cons, run_cons]
      omega

/-- In every run of turns the win and the credits are kept as `TurnScore` says; and if nothing is
loaded in it, all its turns together append at most one ending. -/
theorem victory_and_credits (g : Game) (lines : List String) :
    (∀ turn ∈ g.turns lines, TurnScore turn.1 turn.2) ∧
    (g.Loadless (lines.map .turn) →
      ((g.turns lines).flatMap fun turn => turn.1.appended turn.2).length ≤ 1) := by
  constructor
  · intro turn _
    exact turnScore turn.1 turn.2
  · intro loadless
    have balance := appended_balance_run lines loadless
    have mark := Bool.toNat_le (g.run (lines.map .turn)).world.player.watchedCredits
    omega

end Game

namespace PickleQuest

/-- All that is left to do is to eat the pickle. -/
def lastBite : Game :=
  { game with
    world := { world with
      items := items.map fun item => { item with discovered := true }
      objectives := [light.record "flashlight" "turn on", liberate, savor]
      player := { player with inventory := ["pickle"] } } }

/-- The bite wins, and the credits are rolled then and not again. -/
theorem bite_wins :
    let bitten := (lastBite.takeTurn "chew pickle").2
    lastBite.Loadless (["chew pickle", ""].map .turn) ∧ lastBite.world.player.won = false ∧
      bitten.world.player.won = true ∧ bitten.world.allComplete = true ∧
      bitten.world.player.watchedCredits = true ∧
      ((lastBite.turns ["chew pickle", ""]).flatMap fun turn =>
        turn.1.appended turn.2).length ≤ 1 := by
  dsimp only
  have played : lastBite.loaded? (lastBite.request? (.turn "chew pickle")) = none ∧
      (lastBite.after (.turn "chew pickle")).loaded?
        ((lastBite.after (.turn "chew pickle")).request? (.turn "")) = none ∧
      lastBite.world.player.won = false ∧
      (lastBite.takeTurn "chew pickle").2.world.player.won = true := by
    decide +kernel
  obtain ⟨bite, wait, lost, won⟩ := played
  have loadless : lastBite.Loadless (["chew pickle", ""].map .turn) :=
    Game.loadless_cons.mpr ⟨bite, Game.loadless_cons.mpr ⟨wait, Game.loadless_nil _⟩⟩
  obtain ⟨scores, once⟩ := lastBite.victory_and_credits ["chew pickle", ""]
  have score : Game.TurnScore lastBite "chew pickle" := scores _ List.mem_cons_self
  exact ⟨loadless, lost, won, (score.earned bite lost won).2, score.watched won, once loadless⟩

end PickleQuest

end TextAdventure
