import TextAdventure.Proofs.Development
import TextAdventure.Proofs.Movement
import TextAdventure.Proofs.Reading

/-!
# A saved game is loaded with consent only

A line takes at most one question, the one before a load, and its action is a load exactly if the
answer was yes (`guarded_interpret`).  Which phrases a line is tried as does not matter for this: a
question is asked by the last one that is tried (`hears_interpret`).  So the saved game takes the
place of the current world only in an event in which that was agreed to, and without such an event
the world of a run comes from the one it started with, or from a new game.
-/

set_option autoImplicit false

namespace TextAdventure

namespace Dialogue

/-- The answer that a question gets: the next line of the input, if that is a text. -/
def answer? (d : Dialogue) : Option String :=
  match d.pending with
  | .text answer :: _ => some answer
  | _ => none

theorem ask_answer (d : Dialogue) (question : String) : (d.ask question).1 = d.answer? := by
  unfold ask answer?
  cases pending : d.pending with
  | nil => simp [put, pending]
  | cons line rest => cases line <;> simp [put, pending]

/-- Whether the answer is yes; no answer is no. -/
def agrees (d : Dialogue) (v : Vocabulary) : Bool := d.answer?.any v.isYes

end Dialogue

/-! ## One line -/

namespace Reader

/-- What an action tells of the dialogue it was read in, and of the reader. -/
structure Permitted (r : Reader) (d : Dialogue) (action : Action) : Prop where
  load : action = .loadGame → d.agrees r.scene.vocabulary = true
  decline : action = .declineLoad → d.agrees r.scene.vocabulary = false
  story : action = .tellStory → r.scene.fromPlayer = false
  goals : action = .objectives → r.development = true

/-- Reading a line asks nothing, or once whether to load, which takes one line of input.  The answer
decides between the load and its refusal, and an action that is closed to the reader is not read. -/
structure Guarded (r : Reader) (line : String) (d : Dialogue) : Prop where
  questions :
    (r.interpret line d).2.asked = d.asked ∧ (r.interpret line d).2.pending = d.pending ∨
    (r.interpret line d).2.asked = d.asked ++ [loadQuestion] ∧
      (r.interpret line d).2.pending = d.pending.drop 1
  load : (r.interpret line d).1.action = .loadGame ↔
    (r.interpret line d).2.asked = d.asked ++ [loadQuestion] ∧
      d.agrees r.scene.vocabulary = true
  decline : (r.interpret line d).1.action = .declineLoad ↔
    (r.interpret line d).2.asked = d.asked ++ [loadQuestion] ∧
      d.agrees r.scene.vocabulary = false
  story : r.scene.fromPlayer = true → (r.interpret line d).1.action ≠ .tellStory
  goals : r.development = false → (r.interpret line d).1.action ≠ .objectives

variable (r : Reader)

theorem permitted_action (phrase : String) (d : Dialogue) :
    r.Permitted d (r.action phrase d).1 := by
  have known := r.scene.vocabulary.action_ne_declineLoad phrase
  unfold Reader.action
  split
  case h_1 =>
      have agreed : (d.ask loadQuestion).1.any r.scene.vocabulary.isYes =
          d.agrees r.scene.vocabulary := by
        rw [d.ask_answer, Dialogue.agrees]
      dsimp only
      rw [agreed]
      split
      case isTrue yes => exact ⟨fun _ => yes, nofun, nofun, nofun⟩
      case isFalse no => exact ⟨nofun, fun _ => by simpa using no, nofun, nofun⟩
  case h_2 =>
      dsimp only
      split
      case isTrue => exact ⟨nofun, nofun, nofun, nofun⟩
      case isFalse script => exact ⟨nofun, nofun, fun _ => by simpa using script, nofun⟩
  case h_3 =>
      dsimp only
      split
      case isTrue development => exact ⟨nofun, nofun, nofun, fun _ => development⟩
      case isFalse => exact ⟨nofun, nofun, nofun, nofun⟩
  case h_4 noLoad noStory noGoals =>
      exact ⟨fun load => absurd load noLoad, fun decline => absurd decline known,
        fun story => absurd story noStory, fun goals => absurd goals noGoals⟩

theorem permitted_interpret (line : String) (d : Dialogue) :
    r.Permitted d (r.interpret line d).1.action := by
  have heard := r.hears_interpret line d
  generalize (r.interpret line d).1.action = action, (r.interpret line d).2 = after at heard ⊢
  cases heard with
  | phrase phrase => exact r.permitted_action phrase d
  | place => exact ⟨nofun, nofun, nofun, nofun⟩
  | nothing => exact ⟨nofun, nofun, nofun, nofun⟩

/-- The question was asked exactly if the action follows it. -/
theorem asked_iff (line : String) (d : Dialogue) :
    (r.interpret line d).2.asked = d.asked ++ [loadQuestion] ↔
      (r.interpret line d).1.action.followsQuestion = true := by
  rw [r.interpret_dialogue line d]
  cases (r.interpret line d).1.action.followsQuestion with
  | true => simp [d.asked_ask]
  | false => simp

theorem guarded_interpret (line : String) (d : Dialogue) : r.Guarded line d := by
  have permitted := r.permitted_interpret line d
  have asked := r.asked_iff line d
  rw [Action.followsQuestion_iff] at asked
  refine ⟨?questions, ?load, ?decline, ?story, ?goals⟩
  case questions =>
      rw [r.interpret_dialogue line d]
      split
      · exact Or.inr ⟨d.asked_ask loadQuestion, d.pending_ask loadQuestion⟩
      · exact Or.inl ⟨rfl, rfl⟩
  case load =>
      constructor
      · intro load
        exact ⟨asked.mpr (Or.inl load), permitted.load load⟩
      · rintro ⟨question, agreed⟩
        refine (asked.mp question).resolve_right ?_
        intro decline
        rw [permitted.decline decline] at agreed
        contradiction
  case decline =>
      constructor
      · intro decline
        exact ⟨asked.mpr (Or.inr decline), permitted.decline decline⟩
      · rintro ⟨question, refused⟩
        refine (asked.mp question).resolve_left ?_
        intro load
        rw [permitted.load load] at refused
        contradiction
  case story =>
      intro player story
      rw [permitted.story story] at player
      contradiction
  case goals =>
      intro closed goals
      rw [permitted.goals goals] at closed
      contradiction

end Reader

/-! ## Runs -/

namespace World

/-- A later world has come from an earlier one by play alone: the rooms are as they were planned,
and what there is has developed. -/
def Evolves (before after : World) : Prop :=
  after.plan = before.plan ∧ before.Develops (fun _ _ => True) after

theorem Evolves.refl (w : World) : w.Evolves w := ⟨rfl, Develops.refl w⟩

theorem Evolves.trans {before middle after : World} (early : before.Evolves middle)
    (late : middle.Evolves after) : before.Evolves after :=
  ⟨late.1.trans early.1, early.2.trans late.2⟩

theorem Marks.evolves {before after : World} (marks : before.Marks after) :
    before.Evolves after := by
  refine ⟨?_, marks.develops⟩
  obtain ⟨won, watched, dirty, _, _, rfl⟩ := marks
  rfl

end World

namespace Game

open World

theorem evolves_after (g : Game) {event : Event}
    (loadless : g.loaded? (g.request? event) = none) :
    g.world.Evolves (g.after event).world :=
  ⟨(plan_location_after loadless).1,
    (g.develops_after loadless).mono fun _ _ _ => trivial⟩

/-- What an event leaves that loads a world has come from that world. -/
theorem evolves_loaded {g : Game} {event : Event} {mode : LoadMode}
    (asked : g.request? event = some (.load mode)) {w : World}
    (read : World.load g.files (g.directories.world mode) = .ok w) :
    w.Evolves (g.after event).world := by
  have loads : g.loaded? (g.request? event) = some { w with dirty := false } :=
    loaded?_eq_some.mpr ⟨mode, w, asked, read, rfl⟩
  have clean : w.Marks { w with dirty := false } :=
    ⟨w.player.won, w.player.watchedCredits, false, id, id, rfl⟩
  exact (clean.trans (marks_loaded loads)).evolves

theorem resume_iff {intent : Intent} :
    intent.request? = some (.load .resume) ↔ intent.action = .loadGame := by
  cases action : intent.action <;> simp [Intent.request?, action]

/-- In an event the player was asked whether to load, and said yes. -/
def Consents (g : Game) (event : Event) : Prop :=
  (g.after event).dialogue.asked = g.dialogue.asked ++ [Reader.loadQuestion] ∧
    g.dialogue.agrees g.vocabulary = true

theorem asked_line (g : Game) (line : String) (fromPlayer : Bool) :
    (g.after (.line line fromPlayer)).dialogue.asked =
      ((g.reader fromPlayer).interpret line g.dialogue).2.asked := by
  obtain ⟨speed, same⟩ := g.dialogue_respond line fromPlayer
  rw [after, same, interpret_state]
  rfl

theorem resumes_line_iff (g : Game) (line : String) (fromPlayer : Bool) :
    g.request? (.line line fromPlayer) = some (.load .resume) ↔
      g.Consents (.line line fromPlayer) := by
  have guarded := ((g.reader fromPlayer).guarded_interpret line g.dialogue).load
  have request : g.request? (.line line fromPlayer) =
      ((g.reader fromPlayer).interpret line g.dialogue).1.request? := rfl
  rw [request, Consents, asked_line, resume_iff]
  exact guarded

/-- An event that is no load by itself resumes the saved game exactly if this was agreed to. -/
theorem resumes_iff (g : Game) {event : Event} (played : ∀ mode, event ≠ .load mode) :
    g.request? event = some (.load .resume) ↔ g.Consents event := by
  cases event with
  | line line fromPlayer => exact g.resumes_line_iff line fromPlayer
  | turn line =>
      have asked : (g.after (.turn line)).dialogue = (g.after (.line line true)).dialogue := by
        rw [after_turn, dialogue_rollCredits]
      rw [Consents, asked]
      exact g.resumes_line_iff line true
  | save =>
      refine iff_of_false nofun ?_
      rintro ⟨asked, _⟩
      rw [after, dialogue_save] at asked
      simp at asked
  | load mode => exact absurd rfl (played mode)
  | closing =>
      -- The question at the end is another one.
      refine iff_of_false (g.request?_closing .resume) ?_
      rintro ⟨asked, _⟩
      rcases g.after_closing with ⟨_, same⟩ | ⟨_, dialogue, extended, same⟩
      · rw [same] at asked
        simp at asked
      · have kept : (g.after .closing).dialogue = dialogue := by
          rw [same]
          split
          · exact dialogue_save _
          · rfl
        rw [kept, extended] at asked
        have other : Reply.savePrompt ≠ Reader.loadQuestion := by decide
        simp [other] at asked

instance (g : Game) (event : Event) : Decidable (g.Consents event) :=
  inferInstanceAs (Decidable (_ ∧ _))

/-- Where a world can come from if no saved game was resumed: from the start of the run, or from a
new game. -/
def Unresumed (g : Game) (events : List Event) (w : World) : Prop :=
  g.world.Evolves w ∨
    ∃ s ∈ g.states events, ∃ fresh,
      World.load s.files s.directories.data = .ok fresh ∧ fresh.Evolves w

theorem Unresumed.evolves {g : Game} {events : List Event} {w later : World}
    (unresumed : g.Unresumed events w) (evolves : w.Evolves later) :
    g.Unresumed events later := by
  rcases unresumed with first | ⟨s, member, fresh, read, started⟩
  · exact Or.inl (first.trans evolves)
  · exact Or.inr ⟨s, member, fresh, read, started.trans evolves⟩

theorem unresumed_after {g s : Game} {events : List Event} {event : Event}
    (member : (s, event) ∈ g.steps events) (refused : s.request? event ≠ some (.load .resume))
    (before : g.Unresumed events s.world) : g.Unresumed events (s.after event).world := by
  cases loads : s.loaded? (s.request? event) with
  | none => exact before.evolves (s.evolves_after loads)
  | some loaded =>
      obtain ⟨mode, fresh, asked, read, _⟩ := loaded?_eq_some.mp loads
      cases mode with
      | resume => exact absurd asked refused
      | new =>
          exact Or.inr ⟨s, mem_states_of_mem_steps member, fresh, read, evolves_loaded asked read⟩

/-- Each line asks at most one question, whether to load, and its action is a load exactly if the
answer is yes.  In a run without loads of its own, an event resumes the saved game exactly if it was
agreed to, and then the saved world takes the place of the current one; as long as it is not, all
worlds come from the first one or from a new game. -/
theorem saved_game_needs_consent (g : Game) :
    (∀ (r : Reader) (line : String) (d : Dialogue), r.Guarded line d) ∧
    ∀ events : List Event, (∀ mode, .load mode ∉ events) →
      (∀ s event, (s, event) ∈ g.steps events →
        (s.request? event = some (.load .resume) ↔ s.Consents event) ∧
        (s.Consents event → ∀ saved, World.load s.files s.directories.save = .ok saved →
          saved.Evolves (s.after event).world)) ∧
      ((∀ s event, (s, event) ∈ g.steps events → ¬s.Consents event) →
        ∀ s ∈ g.states events, g.Unresumed events s.world) := by
  refine ⟨Reader.guarded_interpret, ?_⟩
  intro events played
  have resumes : ∀ s event, (s, event) ∈ g.steps events →
      (s.request? event = some (.load .resume) ↔ s.Consents event) := by
    intro s event member
    apply s.resumes_iff
    rintro mode rfl
    exact played mode (mem_of_mem_steps member)
  constructor
  · intro s event member
    refine ⟨resumes s event member, ?_⟩
    intro consents saved read
    exact evolves_loaded ((resumes s event member).mpr consents) read
  · intro refused
    apply invariant_states (P := fun s => g.Unresumed events s.world) events
    · exact Or.inl (Evolves.refl g.world)
    · intro s event member
      exact unresumed_after member (mt (resumes s event member).mp (refused s event member))

end Game

namespace PickleQuest

/-- The next line of input is an answer. -/
def answering (g : Game) (answer : String) : Game :=
  { g with dialogue := { pending := [.text answer] } }

/-- With a yes the saved start is loaded.  With a no all goes on from the kitchen. -/
theorem load_is_confirmed :
    let events := [Event.turn "go north", .line "load" true]
    (answering game.save.1 "Yes").Consents (.line "load" true) ∧
      game.world.persisted.Evolves
        ((answering game.save.1 "Yes").after (.line "load" true)).world ∧
      (answering game "no").Unresumed events ((answering game "no").run events).world := by
  intro events
  have saved := load_savedStart
  have asked : (answering game.save.1 "Yes").request? (.line "load" true) =
      some (.load .resume) := by
    decide +kernel
  have refused : ∀ step ∈ (answering game "no").steps events, ¬step.1.Consents step.2 := by
    decide +kernel
  generalize game.save.1 = start at saved asked ⊢
  have yes := ((answering start "Yes").saved_game_needs_consent.2 [.line "load" true]
    (by simp)).1 _ _ List.mem_cons_self
  have no := ((answering game "no").saved_game_needs_consent.2 events (by simp [events])).2
    fun s event member => refused (s, event) member
  exact ⟨yes.1.mp asked, yes.2 (yes.1.mp asked) _ saved, no _ (Game.run_mem_states events _)⟩

end PickleQuest

end TextAdventure
