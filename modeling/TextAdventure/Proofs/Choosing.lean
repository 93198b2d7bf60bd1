import TextAdventure.Proofs.Consent
import TextAdventure.Proofs.Ending

/-!
# Which game is chosen

The choice of a game counts nothing: it goes on as long as the player says yes to a saved game that
cannot be loaded.  It ends since each question uses up an answer, and what it comes to is settled
from the start by the files and by how many yeses the input begins with (`Game.yeses`).
-/

set_option autoImplicit false

namespace TextAdventure

namespace InputLine

def agrees (v : Vocabulary) : InputLine → Bool
  | text answer => v.isYes answer
  | garbled => false

end InputLine

namespace Game

/-- How many yeses the lines of input begin with. -/
def yeses (g : Game) : Nat :=
  (g.dialogue.pending.takeWhile (·.agrees g.vocabulary)).length

/-- The game after the question whether to load a saved one. -/
def questioned (g : Game) : Game :=
  { g with dialogue := (g.dialogue.ask Reply.loadPrompt).2 }

/-- What a world is greeted with that was loaded. -/
def welcome : LoadMode → String
  | .new => Reply.newGameStarted
  | .resume => Reply.gameLoaded

/-- How the choice of a game ends, with what is told and the world that it leaves: a look around in
the loaded world, which has nothing to save, or the error that there is no new game. -/
inductive Starts (g : Game) : LoadMode → List Response → World → Prop
  | loaded {mode : LoadMode} {w : World}
      (read : World.load g.files (g.directories.world mode) = .ok w) :
      Starts g mode
        [.success (welcome mode), World.look { w with dirty := false } g.vocabulary none]
        { w with dirty := false }
  | broken {error : StoreError} (failed : World.load g.files g.directories.data = .error error) :
      Starts g .new [.error (Reply.newGameFailed error)] g.world

/-- A choice that asks so many times, tells of these failures, and then starts a game in a mode. -/
structure Settles (g : Game) (questions : Nat) (failures : List Response) (mode : LoadMode)
    (printout : Printout) (last : Game) : Prop where
  asked : last.dialogue.asked = g.dialogue.asked ++ List.replicate questions Reply.loadPrompt
  pending : last.dialogue.pending = g.dialogue.pending.drop questions
  ends : ∃ responses, printout.map (·.1) = failures ++ responses ∧
    g.Starts mode responses last.world
  pace : ∀ entry ∈ printout, entry.2 = g.speed
  rest : last = { g with world := last.world, dialogue := last.dialogue }

variable {g : Game}

/-! ## One question -/

theorem agrees_iff (g : Game) : g.dialogue.agrees g.vocabulary = true ↔ g.yeses ≠ 0 := by
  unfold Dialogue.agrees Dialogue.answer? yeses
  cases g.dialogue.pending with
  | nil => simp
  | cons line rest =>
      cases line with
      | garbled => simp [InputLine.agrees]
      | text answer => cases yes : g.vocabulary.isYes answer <;> simp [InputLine.agrees, yes]

theorem asked_questioned (g : Game) :
    g.questioned.dialogue.asked = g.dialogue.asked ++ [Reply.loadPrompt] :=
  g.dialogue.asked_ask Reply.loadPrompt

theorem pending_questioned (g : Game) :
    g.questioned.dialogue.pending = g.dialogue.pending.drop 1 :=
  g.dialogue.pending_ask Reply.loadPrompt

theorem yeses_questioned (agreed : g.yeses ≠ 0) : g.questioned.yeses + 1 = g.yeses := by
  have same : g.questioned.vocabulary = g.vocabulary := rfl
  unfold yeses at agreed ⊢
  rw [pending_questioned, same]
  cases pending : g.dialogue.pending with
  | nil => simp [pending] at agreed
  | cons line rest =>
      cases yes : line.agrees g.vocabulary with
      | false => simp [pending, yes] at agreed
      | true => simp [yes]

theorem askMode_of_unsaved (unsaved : g.hasSavedGame = false) : g.askMode = (.new, g) := by
  simp [askMode, unsaved]

theorem askMode_of_saved (saved : g.hasSavedGame = true) :
    g.askMode = (if g.yeses = 0 then .new else .resume, g.questioned) := by
  have answered : g.confirm Reply.loadPrompt =
      (g.dialogue.agrees g.vocabulary, g.questioned) := by
    rw [Dialogue.agrees, ← g.dialogue.ask_answer Reply.loadPrompt]
    rfl
  rw [askMode, if_pos saved, answered]
  by_cases declined : g.yeses = 0
  · have no : g.dialogue.agrees g.vocabulary = false := by
      rw [← Bool.not_eq_true, g.agrees_iff]
      exact not_not_intro declined
    simp [declined, no]
  · simp [declined, g.agrees_iff.mpr declined]

/-! ## One load -/

theorem loadCommand_of_read {mode : LoadMode} {w : World}
    (read : World.load g.files (g.directories.world mode) = .ok w) :
    g.loadCommand mode = ⟨g.withWorld { w with dirty := false }, .success (welcome mode)⟩ := by
  unfold loadCommand
  rw [load_of_read read]
  cases mode <;> rfl

theorem load_of_error {mode : LoadMode} {error : StoreError}
    (failed : World.load g.files (g.directories.world mode) = .error error) :
    g.load mode = .error error := by
  rw [load, failed]
  rfl

theorem loadCommand_new_of_error {error : StoreError}
    (failed : World.load g.files g.directories.data = .error error) :
    g.loadCommand .new = ⟨g, .error (Reply.newGameFailed error)⟩ := by
  have unread : g.load .new = .error error := load_of_error failed
  unfold loadCommand
  rw [unread]
  rfl

theorem loadCommand_resume_of_error {error : StoreError}
    (failed : World.load g.files g.directories.save = .error error) :
    g.loadCommand .resume = ⟨g, .failure (Reply.resumeFailed error)⟩ := by
  have unread : g.load .resume = .error error := load_of_error failed
  unfold loadCommand
  rw [unread]
  rfl

/-! ## All questions -/

theorem exists_starts_new (g : Game) : ∃ responses w, g.Starts .new responses w := by
  cases read : World.load g.files g.directories.data with
  | ok w => exact ⟨_, _, .loaded read⟩
  | error error => exact ⟨_, _, .broken read⟩

/-- A choice whose load succeeds, or is of a new game, is the last one. -/
theorem settles_of_starts {mode : LoadMode} {d : Dialogue} {n : Nat}
    (asks : g.askMode = (mode, { g with dialogue := d }))
    (asked : d.asked = g.dialogue.asked ++ List.replicate n Reply.loadPrompt)
    (pending : d.pending = g.dialogue.pending.drop n) {responses : List Response} {w : World}
    (starts : g.Starts mode responses w) :
    ∃ stages printout last, g.Chooses stages printout last ∧
      g.Settles n [] mode printout last := by
  have chosen : g.chosen = ({ g with dialogue := d } : Game).loadCommand mode := by
    rw [Game.chosen, asks]
  cases starts with
  | @loaded mode w read =>
      have loads := chosen.trans (loadCommand_of_read (g := { g with dialogue := d }) read)
      refine ⟨_, _, _, .loaded (by rw [loads]; rfl), ?_⟩
      rw [told, firstLook, loads]
      refine ⟨asked, pending, ⟨_, rfl, .loaded read⟩, ?_, rfl⟩
      exact List.forall_mem_cons.mpr ⟨rfl, List.forall_mem_singleton.mpr rfl⟩
  | @broken error failed =>
      have breaks := chosen.trans (loadCommand_new_of_error (g := { g with dialogue := d }) failed)
      refine ⟨_, _, _, .broken (by rw [breaks]; rfl), ?_⟩
      rw [told, breaks]
      exact ⟨asked, pending, ⟨_, rfl, .broken failed⟩, List.forall_mem_singleton.mpr rfl, rfl⟩

theorem Starts.of_questioned {mode : LoadMode} {responses : List Response} {w : World}
    (starts : g.questioned.Starts mode responses w) : g.Starts mode responses w := by
  cases starts with
  | loaded read => exact .loaded read
  | broken failed => exact .broken failed

/-- A saved game that cannot be loaded is asked about once more after each yes. -/
theorem settles_of_torn {error : StoreError} {n : Nat} {g : Game} (yeses : g.yeses = n)
    (saved : g.hasSavedGame = true)
    (failed : World.load g.files g.directories.save = .error error) :
    ∃ stages printout last, g.Chooses stages printout last ∧
      g.Settles (n + 1) (List.replicate n (.failure (Reply.resumeFailed error))) .new printout
        last := by
  induction n generalizing g with
  | zero =>
      have asks := askMode_of_saved saved
      rw [if_pos yeses] at asks
      obtain ⟨responses, w, starts⟩ := g.exists_starts_new
      exact settles_of_starts asks g.asked_questioned g.pending_questioned starts
  | succ n ih =>
      have agreed : g.yeses ≠ 0 := by omega
      -- A failed load leaves the files as they were, and one yes is used up.
      have fails : g.chosen = ⟨g.questioned, .failure (Reply.resumeFailed error)⟩ := by
        rw [chosen, askMode_of_saved saved, if_neg agreed]
        exact loadCommand_resume_of_error (g := g.questioned) failed
      have fewer := yeses_questioned agreed
      obtain ⟨stages, printout, last, later, settles⟩ :=
        ih (g := g.questioned) (by omega) saved failed
      obtain ⟨responses, printed, starts⟩ := settles.ends
      refine ⟨_, _, _, .again (by rw [fails]; rfl) (by rw [fails]; exact later), ?_⟩
      rw [told, fails]
      refine ⟨?asked, ?pending, ⟨responses, ?printed, starts.of_questioned⟩, ?pace, settles.rest⟩
      case asked =>
          rw [settles.asked, asked_questioned, List.append_assoc]
          rfl
      case pending =>
          rw [settles.pending, pending_questioned, List.drop_drop, Nat.add_comm 1]
      case printed =>
          rw [List.map_cons, printed]
          rfl
      case pace => exact List.forall_mem_cons.mpr ⟨rfl, settles.pace⟩

/-- The choice of a game comes to an end, and it is settled by the files and by how many yeses the
player's lines begin with.  Without a saved game nothing is asked.  A saved game that can be loaded
is asked about once, and one that cannot be loaded once more after each yes; each time it is
reported that it failed, and at last a new game is started. -/
theorem choice_is_settled (g : Game) :
    ∃ stages printout last, g.Chooses stages printout last ∧ g.choose = (printout, last) ∧
      (g.hasSavedGame = false → g.Settles 0 [] .new printout last) ∧
      (∀ w, g.hasSavedGame = true → World.load g.files g.directories.save = .ok w →
        g.Settles 1 [] (if g.yeses = 0 then .new else .resume) printout last) ∧
      ∀ error, g.hasSavedGame = true → World.load g.files g.directories.save = .error error →
        g.Settles (g.yeses + 1)
          (List.replicate g.yeses (.failure (Reply.resumeFailed error))) .new printout last := by
  cases saved : g.hasSavedGame with
  | false =>
      obtain ⟨responses, w, starts⟩ := g.exists_starts_new
      obtain ⟨stages, printout, last, chooses, settles⟩ :=
        settles_of_starts (n := 0) (askMode_of_unsaved saved) (List.append_nil _).symm rfl starts
      exact ⟨stages, printout, last, chooses, chooses.eq_choose, fun _ => settles, nofun, nofun⟩
  | true =>
      cases read : World.load g.files g.directories.save with
      | ok w =>
          have starts : ∃ responses w, g.Starts (if g.yeses = 0 then .new else .resume) responses
              w := by
            split
            · exact g.exists_starts_new
            · exact ⟨_, _, .loaded read⟩
          obtain ⟨responses, w, starts⟩ := starts
          obtain ⟨stages, printout, last, chooses, settles⟩ :=
            settles_of_starts (n := 1) (askMode_of_saved saved) g.asked_questioned
              g.pending_questioned starts
          exact ⟨stages, printout, last, chooses, chooses.eq_choose, nofun, fun _ _ _ => settles,
            nofun⟩
      | error error =>
          obtain ⟨stages, printout, last, chooses, settles⟩ := settles_of_torn rfl saved read
          refine ⟨stages, printout, last, chooses, chooses.eq_choose, nofun, nofun, ?_⟩
          rintro _ _ ⟨⟩
          exact settles

end Game

namespace Hall

/-- A saved game whose list of rooms breaks off, and answers to what is asked about it. -/
def torn (answers : List String) : Game where
  vocabulary := ⟨NameMap.ofList [("yes_words", ["yes", "y"])], []⟩
  files := (writeFiles (files.makeDirectories "save").1 "save" [
    (playerFile, "\x7b\x7d"),
    (roomsFile, "[\x7b\"name\": "),
    (itemsFile, "[]"),
    (objectivesFile, "[]")]).1
  directories := ⟨"data", "save"⟩
  dialogue := { pending := answers.map .text }

theorem torn_save_is_given_up :
    let g := torn ["yes", " Y ", "no", "yes"]
    g.hasSavedGame = true ∧ g.yeses = 2 ∧
      ∃ error, World.load g.files g.directories.save = .error error ∧
        g.Settles 3 (List.replicate 2 (.failure (Reply.resumeFailed error))) .new g.choose.1
          g.choose.2 := by
  intro g
  have known : g.hasSavedGame = true ∧ g.yeses = 2 ∧
      (World.load g.files g.directories.save).toOption = none := by
    decide +kernel
  obtain ⟨saved, yeses, unreadable⟩ := known
  refine ⟨saved, yeses, ?_⟩
  cases read : World.load g.files g.directories.save with
  | ok w =>
      rw [read] at unreadable
      contradiction
  | error error =>
      obtain ⟨_, printout, last, _, chosen, _, _, settled⟩ := g.choice_is_settled
      have settles := settled error saved read
      rw [yeses] at settles
      rw [chosen]
      exact ⟨error, rfl, settles⟩

end Hall

end TextAdventure
