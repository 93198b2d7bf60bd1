import TextAdventure.PickleQuest
import TextAdventure.Proofs.Commands
import TextAdventure.Session.Play

/-!
# Events and runs

A game goes through events: lines of the player or of a script, turns with their credits, saves and
loads, and the offer to save at the end.  `request?` tells what an event asks of the files, `deed?`
what it does with items, and `checkpoint?` which world it saves or loads.
-/

set_option autoImplicit false

namespace TextAdventure

inductive Event where
  | line (text : String) (fromPlayer : Bool)
  | turn (text : String)
  | save
  | load (mode : LoadMode)
  | closing
deriving DecidableEq

namespace Game

/-- The game after an event.  A load that fails leaves it as it is. -/
def after (g : Game) : Event → Game
  | .line text fromPlayer => (g.respond text fromPlayer).state
  | .turn text => (g.takeTurn text).2
  | .save => g.save.1
  | .load mode => (g.load mode).toOption.getD g
  | .closing => g.closing.2

def run (g : Game) (events : List Event) : Game :=
  events.foldl after g

/-- All games of a run, the first and the last one included. -/
def states (g : Game) : List Event → List Game
  | [] => [g]
  | event :: rest => g :: (g.after event).states rest

/-- The events of a run, each with the game that it meets. -/
def steps (g : Game) : List Event → List (Game × Event)
  | [] => []
  | event :: rest => (g, event) :: (g.after event).steps rest

@[simp]
theorem run_nil (g : Game) : g.run [] = g := rfl

@[simp]
theorem run_cons (g : Game) (event : Event) (rest : List Event) :
    g.run (event :: rest) = (g.after event).run rest := rfl

theorem mem_of_mem_steps {g s : Game} {event : Event} {events : List Event}
    (member : (s, event) ∈ g.steps events) : event ∈ events := by
  induction events generalizing g with
  | nil => exact absurd member List.not_mem_nil
  | cons first rest ih =>
      rcases List.mem_cons.mp member with same | later
      · cases same
        exact List.mem_cons_self
      · exact List.mem_cons_of_mem first (ih later)

theorem self_mem_states (g : Game) (events : List Event) : g ∈ g.states events := by
  cases events <;> simp [states]

theorem mem_states_of_mem_steps {g s : Game} {event : Event} {events : List Event}
    (member : (s, event) ∈ g.steps events) : s ∈ g.states events := by
  induction events generalizing g with
  | nil => exact absurd member List.not_mem_nil
  | cons first rest ih =>
      rcases List.mem_cons.mp member with same | later
      · cases same
        exact List.mem_cons_self
      · exact List.mem_cons_of_mem g (ih later)

theorem run_mem_states (events : List Event) (g : Game) : g.run events ∈ g.states events := by
  induction events generalizing g with
  | nil => exact List.mem_singleton_self g
  | cons event rest ih => exact List.mem_cons_of_mem g (ih (g.after event))

/-- What holds at the start of a run and is kept by each of its events holds throughout. -/
theorem invariant_states {P : Game → Prop} (events : List Event) {g : Game} (start : P g)
    (step : ∀ s event, (s, event) ∈ g.steps events → P s → P (s.after event)) :
    ∀ s ∈ g.states events, P s := by
  induction events generalizing g with
  | nil =>
      intro s member
      rw [List.mem_singleton.mp member]
      exact start
  | cons event rest ih =>
      have next : P (g.after event) := step g event List.mem_cons_self start
      have later := ih next fun s other member => step s other (List.mem_cons_of_mem _ member)
      intro s member
      rcases List.mem_cons.mp member with rfl | member
      · exact start
      · exact later s member

/-! ## What an event asks for -/

/-- The intent of an event that is read as a line. -/
def intent? (g : Game) : Event → Option Intent
  | .line text fromPlayer => some (g.interpret text fromPlayer).1
  | .turn text => some (g.interpret text true).1
  | _ => none

def request? (g : Game) : Event → Option Request
  | .save => some .save
  | .load mode => some (.load mode)
  | .closing =>
      if g.world.dirty && (g.confirm Reply.savePrompt).1 then some .save else none
  | event => (g.intent? event).bind Intent.request?

def deed? (g : Game) (event : Event) : Option Deed :=
  (g.intent? event).bind g.world.deed?

/-- The world right after a request that is met. -/
def serve? (g : Game) : Request → Option World
  | .save => if g.save.2.isNone then some g.save.1.world else none
  | .load mode => (g.load mode).toOption.map (·.world)

/-- The world that a request loads, if it does and succeeds. -/
def loaded? (g : Game) (request? : Option Request) : Option World :=
  match request? with
  | some (.load mode) => g.serve? (.load mode)
  | _ => none

/-- Closing does not load anything. -/
theorem request?_closing (g : Game) (mode : LoadMode) :
    g.request? .closing ≠ some (.load mode) := by
  change (if _ then some Request.save else none) ≠ _
  split
  · exact nofun
  · exact nofun

/-- The world right after the load or save of an event, if there is one and it succeeds. -/
def checkpoint? (g : Game) (event : Event) : Option World :=
  (g.request? event).bind g.serve?

end Game

theorem bind_eq_ok {ε α β : Type} {x : Except ε α} {f : α → Except ε β} {b : β} :
    x >>= f = .ok b ↔ ∃ a, x = .ok a ∧ f a = .ok b := by
  cases x with
  | error e => simp [bind, Except.bind]
  | ok a => simp [bind, Except.bind]

theorem Dialogue.asked_ask (d : Dialogue) (question : String) :
    (d.ask question).2.asked = d.asked ++ [question] := by
  unfold Dialogue.ask
  cases pending : d.pending with
  | nil => simp [Dialogue.put, Dialogue.asked, pending]
  | cons line rest => cases line <;> simp [Dialogue.put, Dialogue.asked, pending]

namespace Game

/-! ## Interpretation, victory and credits -/

/-- The game after the questions that a line takes. -/
theorem interpret_state (g : Game) (line : String) (fromPlayer : Bool) :
    (g.interpret line fromPlayer).2 =
      { g with dialogue := ((g.reader fromPlayer).interpret line g.dialogue).2 } := rfl

/-- A line says nothing, or is told something without any effect, or is carried out. -/
theorem respond_cases (g : Game) (line : String) (fromPlayer : Bool) :
    ((g.interpret line fromPlayer).1.isSilent = true ∧
      g.respond line fromPlayer = ⟨(g.interpret line fromPlayer).2, .empty⟩) ∨
    ∃ outcome, (g.interpret line fromPlayer).2.Effect (g.interpret line fromPlayer).1 outcome ∧
      g.respond line fromPlayer = ⟨outcome.state.checkVictory, outcome.response⟩ := by
  unfold respond
  generalize g.interpret line fromPlayer = interpreted
  obtain ⟨intent, asked⟩ := interpreted
  by_cases silent : intent.isSilent = true
  · exact Or.inl ⟨silent, by simp [silent, answer]⟩
  · refine Or.inr ?_
    by_cases declined : intent.action = .declineLoad
    · refine ⟨asked.refuse Reply.loadDeclined, ?_, by simp [silent, declined]⟩
      exact .told _ (World.deed?_eq_none (by simp [declined, Action.group?]))
        (request?_eq_none (by simp [declined, Action.group?]))
    · exact ⟨asked.carryOut intent, carryOut_effect asked intent, by simp [silent, declined]⟩

/-- A line whose action belongs to a group is carried out, and then the victory is checked. -/
theorem respond_carryOut (g : Game) (line : String) (fromPlayer : Bool)
    (grouped : (g.interpret line fromPlayer).1.action.group? ≠ none) :
    g.respond line fromPlayer =
      ⟨((g.interpret line fromPlayer).2.carryOut
          (g.interpret line fromPlayer).1).state.checkVictory,
        ((g.interpret line fromPlayer).2.carryOut (g.interpret line fromPlayer).1).response⟩ := by
  unfold respond
  generalize g.interpret line fromPlayer = interpreted at grouped
  obtain ⟨intent, asked⟩ := interpreted
  have speaks : intent.isSilent = false := by
    rw [Intent.isSilent, Bool.and_eq_false_iff, decide_eq_false_iff_not]
    exact Or.inl fun unknown => grouped (by rw [unknown]; rfl)
  have other : intent.action ≠ .declineLoad := fun declined => grouped (by rw [declined]; rfl)
  simp only [speaks, other, if_false, Bool.false_eq_true]

/-- A line that acts on items does so in the world alone. -/
theorem respond_interaction (g : Game) (line : String) (fromPlayer : Bool)
    (group : (g.interpret line fromPlayer).1.action.group? = some .interaction) :
    g.respond line fromPlayer =
      ⟨((g.interpret line fromPlayer).2.inWorld
          (g.world.carryOutInteraction (g.interpret line fromPlayer).1)).state.checkVictory,
        (g.world.carryOutInteraction (g.interpret line fromPlayer).1).response⟩ := by
  have same : (g.interpret line fromPlayer).2.world = g.world := rfl
  rw [g.respond_carryOut line fromPlayer (by simp [group]), ← same]
  simp only [carryOut, group]
  rfl

theorem silent_idle {intent : Intent} (h : intent.isSilent = true) (w : World) :
    intent.request? = none ∧ w.deed? intent = none := by
  have unknown : intent.action = .unknown := by
    simp only [Intent.isSilent, Bool.and_eq_true, decide_eq_true_eq] at h
    exact h.1
  exact ⟨request?_eq_none (by simp [unknown, Action.group?]),
    World.deed?_eq_none (by simp [unknown, Action.group?])⟩

end Game

namespace World

/-- Winning changes the flag of the player, and leaves something to save. -/
theorem checkVictory_cases (w : World) :
    w.checkVictory = w ∨
      w.checkVictory = { w with player := { w.player with won := true }, dirty := true } := by
  unfold checkVictory
  split
  · exact Or.inr rfl
  · exact Or.inl rfl

end World

namespace Game

theorem rollCredits_cases (g : Game) :
    g.rollCredits.2 = g ∨
      g.rollCredits.2 = g.withWorld { g.world with
        player := { g.world.player with watchedCredits := true }, dirty := true } := by
  unfold rollCredits
  split
  · exact Or.inr rfl
  · exact Or.inl rfl

theorem after_turn (g : Game) (text : String) :
    g.after (.turn text) = (g.after (.line text true)).rollCredits.2 := by
  simp only [after, takeTurn]

/-- A hint is revealed of the first open objective, if there is one. -/
theorem hint_state (g : Game) :
    g.hint.state = g.withWorld { g.world with
      objectives := updateFirst (fun objective => !g.world.complete objective)
        Objective.revealHint g.world.objectives } := by
  unfold hint
  dsimp only
  split
  · rename_i complete
    rw [updateFirst_of_none complete]
    rfl
  · rfl

theorem save_cases (g : Game) :
    (∃ files, saveWorld g.files g.directories.save g.world = (files, none) ∧
      g.save = ({ g with files := files, world := { g.world with dirty := false } }, none)) ∨
    (∃ files error, saveWorld g.files g.directories.save g.world = (files, some error) ∧
      g.save = ({ g with files := files }, some error)) := by
  cases written : saveWorld g.files g.directories.save g.world with
  | mk files error? =>
      cases error? with
      | none => exact Or.inl ⟨files, rfl, by simp [save, written]⟩
      | some error => exact Or.inr ⟨files, error, rfl, by simp [save, written]⟩

theorem load_cases (g : Game) (mode : LoadMode) :
    (∃ w, World.load g.files (g.directories.world mode) = .ok w ∧
      g.load mode = .ok (g.withWorld { w with dirty := false })) ∨
    (∃ error, World.load g.files (g.directories.world mode) = .error error ∧
      g.load mode = .error error) := by
  cases read : World.load g.files (g.directories.world mode) with
  | ok w => exact Or.inl ⟨w, rfl, by simp [load, read, bind, Except.bind, pure, Except.pure]⟩
  | error error => exact Or.inr ⟨error, rfl, by simp [load, read, bind, Except.bind]⟩

/-- What a request yields does not depend on what was asked before. -/
theorem serve?_asked (g : Game) (dialogue : Dialogue) (request : Request) :
    ({ g with dialogue := dialogue } : Game).serve? request = g.serve? request := by
  cases request with
  | save =>
      unfold serve? save
      dsimp only
      generalize saveWorld g.files g.directories.save g.world = written
      obtain ⟨files, error?⟩ := written
      cases error? <;> rfl
  | load mode =>
      unfold serve? load
      dsimp only
      generalize World.load g.files (g.directories.world mode) = read
      cases read <;> rfl

theorem loaded?_asked (g : Game) (dialogue : Dialogue) (request? : Option Request) :
    ({ g with dialogue := dialogue } : Game).loaded? request? = g.loaded? request? := by
  cases request? with
  | none => rfl
  | some request =>
      cases request with
      | save => rfl
      | load mode => exact g.serve?_asked dialogue (.load mode)

theorem saveCommand_cases (g : Game) :
    (∃ saved r, g.save = (saved, none) ∧ r.status = .success ∧ g.saveCommand = ⟨saved, r⟩) ∨
    (∃ partly error r, g.save = (partly, some error) ∧ r.status = .failure ∧
      g.saveCommand = ⟨partly, r⟩) := by
  unfold saveCommand
  generalize g.save = written
  obtain ⟨after, error?⟩ := written
  cases error? with
  | none => exact Or.inl ⟨after, _, rfl, rfl, rfl⟩
  | some error => exact Or.inr ⟨after, error, _, rfl, rfl, rfl⟩

theorem saveCommand_state (g : Game) : g.saveCommand.state = g.save.1 := by
  rcases g.saveCommand_cases with
    ⟨saved, r, written, _, same⟩ | ⟨partly, error, r, written, _, same⟩
  · rw [same, written]
  · rw [same, written]

theorem loadCommand_cases (g : Game) (mode : LoadMode) :
    (∃ loaded r, g.load mode = .ok loaded ∧ r.status = .success ∧
      g.loadCommand mode = ⟨loaded, r⟩) ∨
    (∃ error r, g.load mode = .error error ∧ r.status ≠ .success ∧
      g.loadCommand mode = ⟨g, r⟩) := by
  unfold loadCommand
  generalize g.load mode = read
  cases read with
  | ok loaded => cases mode <;> exact Or.inl ⟨loaded, _, rfl, rfl, rfl⟩
  | error error =>
      cases mode with
      | new =>
          refine Or.inr ⟨error, .error (Reply.newGameFailed error), rfl, ?_, rfl⟩
          intro same
          exact Status.noConfusion same
      | resume =>
          refine Or.inr ⟨error, .failure (Reply.resumeFailed error), rfl, ?_, rfl⟩
          intro same
          exact Status.noConfusion same

theorem loadCommand_state (g : Game) (mode : LoadMode) :
    (g.loadCommand mode).state = g.after (.load mode) := by
  rcases g.loadCommand_cases mode with ⟨loaded, r, read, _, same⟩ | ⟨error, r, read, _, same⟩
  · rw [same, after, read]
    rfl
  · rw [same, after, read]
    rfl

/-- Closing asks nothing when there is nothing to save, and else the one question. -/
theorem after_closing (g : Game) :
    (g.world.dirty = false ∧ g.after .closing = g) ∨
    (g.world.dirty = true ∧ ∃ dialogue,
      dialogue.asked = g.dialogue.asked ++ [Reply.savePrompt] ∧
      g.after .closing =
        if (g.confirm Reply.savePrompt).1 then ({ g with dialogue := dialogue } : Game).save.1
        else { g with dialogue := dialogue }) := by
  cases dirty : g.world.dirty with
  | false => exact Or.inl ⟨rfl, by simp [after, closing, offerSave, dirty]⟩
  | true =>
      refine Or.inr ⟨rfl, (g.dialogue.ask Reply.savePrompt).2, g.dialogue.asked_ask _, ?_⟩
      have answered : (g.confirm Reply.savePrompt).2 =
          { g with dialogue := (g.dialogue.ask Reply.savePrompt).2 } := rfl
      simp only [after, closing, offerSave, dirty, if_true, ← answered]
      cases (g.confirm Reply.savePrompt).1 with
      | false => simp [answer]
      | true =>
          simp only [if_true]
          exact saveCommand_state _

end Game

/-- The adventure at its start, before anything is in the files. -/
def PickleQuest.game : Game where
  world := PickleQuest.world
  vocabulary := ⟨NameMap.ofList PickleQuest.tables, PickleQuest.helpLines⟩
  directories := ⟨"data", "save"⟩

end TextAdventure
