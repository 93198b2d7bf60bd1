import TextAdventure.Proofs.Reading
import TextAdventure.Session.Run

/-!
# The course of a session

`Session` tells the course of a session as a list of stages, without a bound on their number: games
are chosen until one is loaded or none can be, turns are taken until the player leaves or the lines
end, and then the session closes.  Every session has a course, and it is the one that is played
(`session_play`, `Session.eq_play`); so the bounds that the program counts down never cut it short.
-/

set_option autoImplicit false

namespace TextAdventure

/-- What a session does next, and the game it does it with. -/
inductive Stage where
  /-- A game is chosen and loaded, if it can be. -/
  | choice (g : Game)
  | blank (line : String)
  | garbled
  /-- A line, which has been read, is answered. -/
  | turn (g : Game) (line : String)
  | closing (g : Game)

namespace Stage

/-- The lines that are read in a stage. -/
def lines : Stage → List InputLine
  | choice g => if g.hasSavedGame then g.dialogue.pending.take 1 else []
  | blank line => [.text line]
  | garbled => [.garbled]
  | turn g line =>
      .text line ::
        if (g.interpret line true).1.action.followsQuestion then g.dialogue.pending.take 1 else []
  | closing g => if g.world.dirty then g.dialogue.pending.take 1 else []

/-- A new game is asked for, and there is none. -/
def NewGameFails : Stage → Prop
  | choice g => g.askMode.1 = .new ∧ g.NewGameFails
  | turn g line => (g.interpret line true).1.action = .newGame ∧ g.NewGameFails
  | _ => False

/-- The session cannot go on after the stage. -/
def Breaks : Stage → Prop
  | garbled => True
  | stage => stage.NewGameFails

/-- The player asks to leave. -/
def Leaves : Stage → Prop
  | turn g line => (g.interpret line true).1.action = .exit
  | _ => False

end Stage

namespace Game

-- A course goes by what a choice, a load or a turn leaves, and not by how it is computed.
seal askMode loadCommand takeTurn

/-! ## Courses -/

/-- The outcome of one choice of a game. -/
def chosen (g : Game) : Outcome Game :=
  g.askMode.2.loadCommand g.askMode.1

/-- What is told of a choice. -/
def told (g : Game) : Response × Speed :=
  (g.chosen.response, g.chosen.state.speed)

/-- The choices until a game is loaded or none can be, with all that is told and the last game. -/
inductive Chooses : Game → List Stage → Printout → Game → Prop
  | loaded {g : Game} (success : g.chosen.response.status = .success) :
      Chooses g [.choice g] [g.told, g.chosen.state.firstLook] g.chosen.state
  | broken {g : Game} (error : g.chosen.response.status = .error) :
      Chooses g [.choice g] [g.told] g.chosen.state
  | again {g last : Game} {stages : List Stage} {printout : Printout}
      (failure : g.chosen.response.status = .failure)
      (later : Chooses g.chosen.state stages printout last) :
      Chooses g (.choice g :: stages) (g.told :: printout) last

/-- The game with a line asked for. -/
def prompted (g : Game) : Game :=
  g.put (.prompt Reply.turnPrompt g.speed)

/-- The game after a turn, with its responses shown. -/
def answered (g : Game) (line : String) : Game :=
  (g.takeTurn line).2.putAll (g.takeTurn line).1

/-- The turns until the player leaves or the lines end, or until a turn or a line breaks off. -/
inductive Plays : Game → List Stage → SessionEnd → Prop
  | left {g : Game} (inactive : g.active = false) : Plays g [.closing g] g.finish
  | ended {g h : Game} (active : g.active = true) (heard : g.prompted.readLine = (none, h)) :
      Plays g [.closing h] h.finish
  | garbled {g h : Game} (active : g.active = true)
      (heard : g.prompted.readLine = (some .garbled, h)) :
      Plays g [.garbled] ⟨h, some .garbledInput⟩
  | blank {g h : Game} {line : String} {stages : List Stage} {e : SessionEnd}
      (active : g.active = true) (heard : g.prompted.readLine = (some (.text line), h))
      (void : Text.isVoid line = true) (later : Plays h stages e) :
      Plays g (.blank line :: stages) e
  | broken {g h : Game} {line : String} {answer : List String} (active : g.active = true)
      (heard : g.prompted.readLine = (some (.text line), h)) (spoken : Text.isVoid line = false)
      (error : fatal? (h.takeTurn line).1 = some answer) :
      Plays g [.turn h line] ⟨h.answered line, some (.unrecoverable answer)⟩
  | turn {g h : Game} {line : String} {stages : List Stage} {e : SessionEnd}
      (active : g.active = true) (heard : g.prompted.readLine = (some (.text line), h))
      (spoken : Text.isVoid line = false) (fine : fatal? (h.takeTurn line).1 = none)
      (later : Plays (h.answered line) stages e) :
      Plays g (.turn h line :: stages) e

/-- A whole session: the opening, the choices, and the turns if a game was loaded. -/
inductive Session (g : Game) : List Stage → SessionEnd → Prop
  | broken {chosen : Game} {choices : List Stage} {printout : Printout} {answer : List String}
      (chooses : (g.putAll g.opening).Chooses choices printout chosen)
      (error : fatal? printout = some answer) :
      Session g choices ⟨chosen.putAll printout, some (.couldNotStart answer)⟩
  | played {chosen : Game} {choices stages : List Stage} {printout : Printout} {e : SessionEnd}
      (chooses : (g.putAll g.opening).Chooses choices printout chosen)
      (fine : fatal? printout = none) (plays : (chosen.putAll printout).Plays stages e) :
      Session g (choices ++ stages) e

/-! ## What each stage reads -/

@[simp]
theorem pending_putAll (g : Game) (printout : Printout) :
    (g.putAll printout).dialogue.pending = g.dialogue.pending := by
  unfold putAll
  induction printout generalizing g with
  | nil => rfl
  | cons entry rest ih => exact ih (g.put (.response entry.1 entry.2))

@[simp]
theorem active_putAll (g : Game) (printout : Printout) :
    (g.putAll printout).active = g.active := by
  unfold putAll
  induction printout generalizing g with
  | nil => rfl
  | cons entry rest ih => exact ih (g.put (.response entry.1 entry.2))

/-- What is read for a turn is the next line. -/
theorem next_of_readLine {g h : Game} {line : InputLine}
    (heard : g.prompted.readLine = (some line, h)) :
    g.dialogue.pending = line :: h.dialogue.pending ∧ h.active = g.active := by
  have same : g.prompted.dialogue.pending = g.dialogue.pending := rfl
  unfold readLine at heard
  rw [same] at heard
  cases pending : g.dialogue.pending with
  | nil => simp [pending] at heard
  | cons next rest =>
      simp only [pending, Prod.mk.injEq, Option.some.injEq] at heard
      obtain ⟨rfl, rfl⟩ := heard
      exact ⟨rfl, rfl⟩

theorem none_of_readLine {g h : Game} (heard : g.prompted.readLine = (none, h)) :
    g.dialogue.pending = [] ∧ h = g.prompted := by
  have same : g.prompted.dialogue.pending = g.dialogue.pending := rfl
  unfold readLine at heard
  rw [same] at heard
  cases pending : g.dialogue.pending with
  | nil =>
      simp only [pending, Prod.mk.injEq, true_and] at heard
      exact ⟨rfl, heard.symm⟩
  | cons next rest => simp [pending] at heard

theorem take_append_rest {α : Type} (reads : Bool) (l : List α) :
    (if reads then l.take 1 else []) ++ (if reads then l.drop 1 else l) = l := by
  cases reads with
  | false => rfl
  | true => exact List.take_append_drop 1 l

theorem lines_choice (g : Game) :
    (Stage.choice g).lines ++ g.chosen.state.dialogue.pending = g.dialogue.pending := by
  rw [chosen, dialogue_loadCommand, pending_askMode]
  exact take_append_rest g.hasSavedGame g.dialogue.pending

theorem lines_turn (g : Game) (line : String) :
    (Stage.turn g line).lines ++ (g.answered line).dialogue.pending =
      .text line :: g.dialogue.pending := by
  rw [answered, pending_putAll, pending_takeTurn]
  exact congrArg (.text line :: ·) (take_append_rest _ g.dialogue.pending)

theorem lines_closing (g : Game) :
    (Stage.closing g).lines ++ g.finish.game.dialogue.pending = g.dialogue.pending := by
  change _ ++ (g.closing.2.putAll g.closing.1).dialogue.pending = _
  rw [pending_putAll, pending_closing]
  exact take_append_rest g.world.dirty g.dialogue.pending

theorem Chooses.reads {g last : Game} {stages : List Stage} {printout : Printout}
    (chooses : g.Chooses stages printout last) :
    stages.flatMap Stage.lines ++ last.dialogue.pending = g.dialogue.pending := by
  induction chooses with
  | @loaded g success =>
      rw [List.flatMap_singleton]
      exact g.lines_choice
  | @broken g error =>
      rw [List.flatMap_singleton]
      exact g.lines_choice
  | @again g last stages printout failure later ih =>
      rw [List.flatMap_cons, List.append_assoc, ih]
      exact g.lines_choice

theorem Plays.reads {g : Game} {stages : List Stage} {e : SessionEnd} (plays : g.Plays stages e) :
    stages.flatMap Stage.lines ++ e.game.dialogue.pending = g.dialogue.pending := by
  induction plays with
  | @left g inactive =>
      rw [List.flatMap_singleton]
      exact g.lines_closing
  | @ended g h active heard =>
      obtain ⟨_, rfl⟩ := none_of_readLine heard
      rw [List.flatMap_singleton]
      exact g.prompted.lines_closing
  | @garbled g h active heard =>
      rw [(next_of_readLine heard).1]
      rfl
  | @blank g h line stages e active heard void later ih =>
      rw [List.flatMap_cons, List.append_assoc, ih, (next_of_readLine heard).1]
      rfl
  | @broken g h line answer active heard spoken error =>
      rw [List.flatMap_singleton, (next_of_readLine heard).1]
      exact h.lines_turn line
  | @turn g h line stages e active heard spoken fine later ih =>
      rw [List.flatMap_cons, List.append_assoc, ih, (next_of_readLine heard).1]
      exact h.lines_turn line

/-! ## A session has one course -/

/-- A choice that fails was of a saved game, and the answer to the question is used up. -/
theorem pending_of_failure {g : Game} (failure : g.chosen.response.status = .failure) :
    g.dialogue.pending.length = g.chosen.state.dialogue.pending.length + 1 := by
  have resumes : g.askMode.1 = .resume := resume_of_failure failure
  rw [chosen, dialogue_loadCommand]
  unfold askMode at resumes ⊢
  by_cases saved : g.hasSavedGame = true
  · simp only [saved, if_true] at resumes ⊢
    have read := g.dialogue.pending_ask Reply.loadPrompt
    cases pending : g.dialogue.pending with
    | nil =>
        have silent : (g.confirm Reply.loadPrompt).1 = false := by
          simp [confirm, Dialogue.ask, Dialogue.put, pending]
        simp [silent] at resumes
    | cons line rest =>
        rw [pending] at read
        change _ = (g.dialogue.ask Reply.loadPrompt).2.pending.length + 1
        rw [read]
        rfl
  · simp only [saved] at resumes
    contradiction

theorem chooseWithin_succ (tries : Nat) (g : Game) :
    chooseWithin (tries + 1) g =
      match g.chosen.response.status with
      | .success => ([g.told, g.chosen.state.firstLook], g.chosen.state)
      | .error => ([g.told], g.chosen.state)
      | .failure => (g.told :: (chooseWithin tries g.chosen.state).1,
          (chooseWithin tries g.chosen.state).2) := rfl

theorem chooses_within {tries : Nat} {g : Game} (enough : g.dialogue.pending.length < tries) :
    ∃ stages, g.Chooses stages (chooseWithin tries g).1 (chooseWithin tries g).2 := by
  induction tries generalizing g with
  | zero => omega
  | succ tries ih =>
      rw [chooseWithin_succ]
      cases status : g.chosen.response.status with
      | success => exact ⟨_, .loaded status⟩
      | error => exact ⟨_, .broken status⟩
      | failure =>
          have used := pending_of_failure status
          obtain ⟨stages, later⟩ := ih (g := g.chosen.state) (by omega)
          exact ⟨_, .again status later⟩

theorem Chooses.eq_within {g last : Game} {stages : List Stage} {printout : Printout}
    (chooses : g.Chooses stages printout last) {tries : Nat}
    (enough : g.dialogue.pending.length < tries) : chooseWithin tries g = (printout, last) := by
  induction chooses generalizing tries with
  | loaded success =>
      obtain ⟨tries, rfl⟩ := Nat.exists_eq_add_one_of_ne_zero (Nat.ne_zero_of_lt enough)
      rw [chooseWithin_succ, success]
  | broken error =>
      obtain ⟨tries, rfl⟩ := Nat.exists_eq_add_one_of_ne_zero (Nat.ne_zero_of_lt enough)
      rw [chooseWithin_succ, error]
  | @again g last stages printout failure later ih =>
      obtain ⟨tries, rfl⟩ := Nat.exists_eq_add_one_of_ne_zero (Nat.ne_zero_of_lt enough)
      have used := pending_of_failure failure
      have rest : chooseWithin tries g.chosen.state = (printout, last) := ih (by omega)
      rw [chooseWithin_succ, failure]
      simp only [rest]

theorem Chooses.eq_choose {g last : Game} {stages : List Stage} {printout : Printout}
    (chooses : g.Chooses stages printout last) : g.choose = (printout, last) := by
  rw [choose]
  exact chooses.eq_within (Nat.lt_succ_self _)

theorem playWithin_succ (turns : Nat) (g : Game) :
    playWithin (turns + 1) g =
      if !g.active then g.finish
      else
        match g.prompted.readLine with
        | (none, h) => h.finish
        | (some .garbled, h) => ⟨h, some .garbledInput⟩
        | (some (.text line), h) =>
            if Text.isVoid line then playWithin turns h
            else
              match fatal? (h.takeTurn line).1 with
              | some answer => ⟨h.answered line, some (.unrecoverable answer)⟩
              | none => playWithin turns (h.answered line) := rfl

theorem length_answered (g : Game) (line : String) :
    (g.answered line).dialogue.pending.length ≤ g.dialogue.pending.length := by
  have read := congrArg List.length (g.lines_turn line)
  simp only [Stage.lines, List.length_append, List.length_cons] at read
  omega

theorem plays_within {turns : Nat} {g : Game} (enough : g.dialogue.pending.length < turns) :
    ∃ stages, g.Plays stages (playWithin turns g) := by
  induction turns generalizing g with
  | zero => omega
  | succ turns ih =>
      rw [playWithin_succ]
      cases active : g.active with
      | false => exact ⟨_, .left active⟩
      | true =>
          simp only [Bool.not_true, Bool.false_eq_true, if_false]
          cases heard : g.prompted.readLine with
          | mk line? h =>
              match line? with
              | none => exact ⟨_, .ended active heard⟩
              | some .garbled => exact ⟨_, .garbled active heard⟩
              | some (.text line) =>
                  have shorter : h.dialogue.pending.length < turns := by
                    have next := congrArg List.length (next_of_readLine heard).1
                    rw [List.length_cons] at next
                    omega
                  dsimp only
                  cases void : Text.isVoid line with
                  | true =>
                      obtain ⟨stages, later⟩ := ih shorter
                      exact ⟨_, .blank active heard void later⟩
                  | false =>
                      simp only [Bool.false_eq_true, if_false]
                      cases told : fatal? (h.takeTurn line).1 with
                      | some answer => exact ⟨_, .broken active heard void told⟩
                      | none =>
                          have used := h.length_answered line
                          obtain ⟨stages, later⟩ := ih (g := h.answered line) (by omega)
                          exact ⟨_, .turn active heard void told later⟩

theorem Plays.eq_within {g : Game} {stages : List Stage} {e : SessionEnd}
    (plays : g.Plays stages e) {turns : Nat} (enough : g.dialogue.pending.length < turns) :
    playWithin turns g = e := by
  induction plays generalizing turns with
  | left inactive =>
      obtain ⟨turns, rfl⟩ := Nat.exists_eq_add_one_of_ne_zero (Nat.ne_zero_of_lt enough)
      simp only [playWithin_succ, inactive, Bool.not_false, if_true]
  | ended active heard =>
      obtain ⟨turns, rfl⟩ := Nat.exists_eq_add_one_of_ne_zero (Nat.ne_zero_of_lt enough)
      simp only [playWithin_succ, active, heard, Bool.not_true, Bool.false_eq_true, if_false]
  | garbled active heard =>
      obtain ⟨turns, rfl⟩ := Nat.exists_eq_add_one_of_ne_zero (Nat.ne_zero_of_lt enough)
      simp only [playWithin_succ, active, heard, Bool.not_true, Bool.false_eq_true, if_false]
  | @blank g h line stages e active heard void later ih =>
      obtain ⟨turns, rfl⟩ := Nat.exists_eq_add_one_of_ne_zero (Nat.ne_zero_of_lt enough)
      have next := congrArg List.length (next_of_readLine heard).1
      rw [List.length_cons] at next
      simp only [playWithin_succ, active, heard, void, Bool.not_true, Bool.false_eq_true, if_false,
        if_true]
      exact ih (by omega)
  | broken active heard spoken error =>
      obtain ⟨turns, rfl⟩ := Nat.exists_eq_add_one_of_ne_zero (Nat.ne_zero_of_lt enough)
      simp only [playWithin_succ, active, heard, spoken, error, Bool.not_true, Bool.false_eq_true,
        if_false]
  | @turn g h line stages e active heard spoken fine later ih =>
      obtain ⟨turns, rfl⟩ := Nat.exists_eq_add_one_of_ne_zero (Nat.ne_zero_of_lt enough)
      have next := congrArg List.length (next_of_readLine heard).1
      rw [List.length_cons] at next
      have used := h.length_answered line
      simp only [playWithin_succ, active, heard, spoken, fine, Bool.not_true, Bool.false_eq_true,
        if_false]
      exact ih (by omega)

section Choice

variable {g chosen : Game} {printout : Printout}
  (choice : (g.putAll g.opening).choose = (printout, chosen))

include choice

theorem play_of_broken {answer : List String} (error : fatal? printout = some answer) :
    g.play = ⟨chosen.putAll printout, some (.couldNotStart answer)⟩ := by
  unfold play
  rw [choice]
  simp only [error]

theorem play_of_fine (fine : fatal? printout = none) :
    g.play =
      playWithin ((chosen.putAll printout).dialogue.pending.length + 1)
        (chosen.putAll printout) := by
  unfold play
  rw [choice]
  simp only [fine]

end Choice

theorem session_play (g : Game) : ∃ stages, g.Session stages g.play := by
  obtain ⟨choices, chooses⟩ := chooses_within (g := g.putAll g.opening) (Nat.lt_succ_self _)
  have choice := chooses.eq_choose
  generalize (chooseWithin _ _).1 = printout at chooses choice
  generalize (chooseWithin _ _).2 = chosen at chooses choice
  cases told : fatal? printout with
  | some answer =>
      rw [play_of_broken choice told]
      exact ⟨choices, .broken chooses told⟩
  | none =>
      obtain ⟨stages, plays⟩ := plays_within (g := chosen.putAll printout) (Nat.lt_succ_self _)
      rw [play_of_fine choice told]
      exact ⟨choices ++ stages, .played chooses told plays⟩

theorem Session.eq_play {g : Game} {stages : List Stage} {e : SessionEnd}
    (session : g.Session stages e) : e = g.play := by
  cases session with
  | broken chooses error => rw [play_of_broken chooses.eq_choose error]
  | played chooses fine plays =>
      rw [play_of_fine chooses.eq_choose fine]
      exact (plays.eq_within (Nat.lt_succ_self _)).symm

end Game

end TextAdventure
