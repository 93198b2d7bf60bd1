import TextAdventure.Proofs.Interpreting
import TextAdventure.Proofs.Rejection
import TextAdventure.Proofs.Victory

/-!
# Which lines are read

Lines of input are read by turns and by questions.  A command asks no question but the one before a
saved game is loaded (`interpret_dialogue`); the choice of a game and the closing ask at most one
each.  The rest of a command leaves the lines alone; it stops the game only if it is to leave, and
it is an error only if a new game cannot be loaded (`respond_error_iff`).
-/

set_option autoImplicit false

namespace TextAdventure

theorem Dialogue.pending_ask (d : Dialogue) (question : String) :
    (d.ask question).2.pending = d.pending.drop 1 := by
  unfold Dialogue.ask
  cases pending : d.pending with
  | nil => simp [Dialogue.put, pending]
  | cons line rest => cases line <;> simp [Dialogue.put, pending]

/-! ## Interpretation -/

namespace Reader

variable (r : Reader)

/-- What reading a line comes to: what a phrase comes to, or, with nothing asked, walking or
nothing at all. -/
inductive Hears (d : Dialogue) : Action → Dialogue → Prop
  | phrase (phrase : String) : Hears d (r.action phrase d).1 (r.action phrase d).2
  | place : Hears d .move d
  | nothing : Hears d .unknown d

variable {r} in
theorem hears_of_action {phrase : String} {d after : Dialogue} {action : Action}
    (asked : r.action phrase d = (action, after)) : r.Hears d action after := by
  have heard : r.Hears d (r.action phrase d).1 (r.action phrase d).2 := .phrase phrase
  rwa [asked] at heard

theorem hears_interpret (line : String) (d : Dialogue) :
    r.Hears d (r.interpret line d).1.action (r.interpret line d).2 := by
  have reads := r.reads_interpret line d
  generalize r.interpret line d = read at reads ⊢
  cases reads with
  | nothing => exact .nothing
  | oneMap _ asked => exact hears_of_action asked
  | oneWord _ _ _ asked => exact hears_of_action asked
  | onePlace => exact .place
  | oneLost => exact .nothing
  | map _ asked => exact hears_of_action asked
  | phrase _ _ _ asked => exact hears_of_action asked
  | verb _ _ _ asked => exact hears_of_action asked
  | place => exact .place

/-- A line takes one question if its action is the outcome of one, and none if not. -/
theorem interpret_dialogue (line : String) (d : Dialogue) :
    (r.interpret line d).2 =
      if (r.interpret line d).1.action.followsQuestion then (d.ask loadQuestion).2 else d := by
  change Asked d (r.interpret line d).1.action (r.interpret line d).2
  have heard := r.hears_interpret line d
  generalize (r.interpret line d).1.action = action, (r.interpret line d).2 = after at heard ⊢
  cases heard with
  | phrase phrase => exact r.asked_action phrase d
  | place => rfl
  | nothing => rfl

end Reader

namespace Game

/-! ## What each part of a session leaves of the lines -/

theorem pending_interpret (g : Game) (line : String) (fromPlayer : Bool) :
    (g.interpret line fromPlayer).2.dialogue.pending =
      if (g.interpret line fromPlayer).1.action.followsQuestion then g.dialogue.pending.drop 1
      else g.dialogue.pending := by
  have read := (g.reader fromPlayer).interpret_dialogue line g.dialogue
  have same : (g.interpret line fromPlayer).1 =
      ((g.reader fromPlayer).interpret line g.dialogue).1 := rfl
  rw [interpret_state, same]
  change ((g.reader fromPlayer).interpret line g.dialogue).2.pending = _
  rw [read]
  split
  · exact g.dialogue.pending_ask _
  · rfl

theorem dialogue_save (g : Game) : g.save.1.dialogue = g.dialogue := by
  rcases g.save_cases with ⟨files, _, saved⟩ | ⟨files, error, _, failed⟩
  · rw [saved]
  · rw [failed]

theorem dialogue_loadCommand (g : Game) (mode : LoadMode) :
    (g.loadCommand mode).state.dialogue = g.dialogue := by
  rw [loadCommand_state, after]
  rcases g.load_cases mode with ⟨w, _, loaded⟩ | ⟨error, _, failed⟩
  · rw [loaded]
    rfl
  · rw [failed]
    rfl

/-- Of the dialogue an effect changes nothing but the speed. -/
theorem Effect.dialogue {g : Game} {intent : Intent} {outcome : Outcome Game}
    (effect : g.Effect intent outcome) :
    ∃ speed, outcome.state.dialogue = { g.dialogue with speed := speed } := by
  cases effect with
  | paced speed r action success => exact ⟨speed, rfl⟩
  | hinted action =>
      rw [hint_state]
      exact ⟨g.dialogue.speed, rfl⟩
  | saved asked =>
      rw [saveCommand_state, dialogue_save]
      exact ⟨g.dialogue.speed, rfl⟩
  | loaded mode asked =>
      rw [dialogue_loadCommand]
      exact ⟨g.dialogue.speed, rfl⟩
  | _ => exact ⟨g.dialogue.speed, rfl⟩

/-- A line leaves the dialogue as it is after the questions, the speed aside. -/
theorem dialogue_respond (g : Game) (line : String) (fromPlayer : Bool) :
    ∃ speed, (g.respond line fromPlayer).state.dialogue =
      { (g.interpret line fromPlayer).2.dialogue with speed := speed } := by
  rcases g.respond_cases line fromPlayer with ⟨_, silent⟩ | ⟨outcome, effect, same⟩
  · rw [silent]
    exact ⟨(g.interpret line fromPlayer).2.dialogue.speed, rfl⟩
  · rw [same]
    exact effect.dialogue

theorem dialogue_rollCredits (g : Game) : g.rollCredits.2.dialogue = g.dialogue := by
  rcases g.rollCredits_cases with still | rolled
  · rw [still]
  · rw [rolled]
    rfl

theorem pending_respond (g : Game) (line : String) (fromPlayer : Bool) :
    (g.respond line fromPlayer).state.dialogue.pending =
      if (g.interpret line fromPlayer).1.action.followsQuestion then g.dialogue.pending.drop 1
      else g.dialogue.pending := by
  obtain ⟨speed, same⟩ := g.dialogue_respond line fromPlayer
  rw [← pending_interpret, same]

theorem pending_takeTurn (g : Game) (line : String) :
    (g.takeTurn line).2.dialogue.pending =
      if (g.interpret line true).1.action.followsQuestion then g.dialogue.pending.drop 1
      else g.dialogue.pending := by
  rw [← pending_respond, takeTurn_eq, dialogue_rollCredits]

theorem pending_askMode (g : Game) :
    g.askMode.2.dialogue.pending =
      if g.hasSavedGame then g.dialogue.pending.drop 1 else g.dialogue.pending := by
  unfold askMode
  split
  · exact g.dialogue.pending_ask _
  · rfl

theorem pending_closing (g : Game) :
    g.closing.2.dialogue.pending =
      if g.world.dirty then g.dialogue.pending.drop 1 else g.dialogue.pending := by
  change g.offerSave.2.dialogue.pending = _
  unfold offerSave
  split
  · dsimp only
    split
    · rw [saveCommand_state, dialogue_save]
      exact g.dialogue.pending_ask _
    · exact g.dialogue.pending_ask _
  · rfl

/-! ## Leaving -/

theorem active_loadCommand (g : Game) (mode : LoadMode) :
    (g.loadCommand mode).state.active = g.active := by
  rw [loadCommand_state, after]
  rcases g.load_cases mode with ⟨w, _, loaded⟩ | ⟨error, _, failed⟩
  · rw [loaded]
    rfl
  · rw [failed]
    rfl

theorem Effect.active {g : Game} {intent : Intent} {outcome : Outcome Game}
    (effect : g.Effect intent outcome) (stays : intent.action ≠ .exit) :
    outcome.state.active = g.active := by
  cases effect with
  | left action => exact absurd action stays
  | hinted action =>
      rw [hint_state]
      rfl
  | saved asked =>
      rw [saveCommand_state]
      rcases g.save_cases with ⟨files, _, saved⟩ | ⟨files, error, _, failed⟩
      · rw [saved]
      · rw [failed]
  | loaded mode asked => exact g.active_loadCommand mode
  | _ => rfl

/-- A turn stops the game if it is read as leaving, and not else. -/
theorem active_takeTurn (g : Game) (line : String) :
    (g.takeTurn line).2.active =
      if (g.interpret line true).1.action = .exit then false else g.active := by
  have credits : (g.takeTurn line).2.active = (g.respond line true).state.active := by
    rw [takeTurn_eq]
    rcases (g.respond line true).state.rollCredits_cases with still | rolled
    · rw [still]
    · rw [rolled]
      rfl
  rw [credits]
  by_cases leaves : (g.interpret line true).1.action = .exit
  · rw [if_pos leaves, g.respond_carryOut line true (by rw [leaves]; decide)]
    simp only [carryOut, leaves, Action.group?, carryOutHousekeeping]
    rfl
  · rw [if_neg leaves]
    rcases g.respond_cases line true with ⟨_, silent⟩ | ⟨outcome, effect, same⟩
    · rw [silent]
      rfl
    · rw [same]
      exact effect.active leaves

end Game

/-! ## Errors -/

namespace Response

/-- The game can go on after the response. -/
def Calm (r : Response) : Prop := r.status ≠ .error

theorem Calm.of_success {r : Response} (success : r.status = .success) : r.Calm := by
  rw [Calm, success]
  decide

theorem Calm.of_failure {r : Response} (failure : r.status = .failure) : r.Calm := by
  rw [Calm, failure]
  decide

end Response

namespace World

theorem calm_look (w : World) (v : Vocabulary) (target? : Option String) :
    (w.look v target?).Calm := by
  rcases w.look_cases v target? with ⟨text, failed⟩ | ⟨room, _, shown⟩
  · rw [failed]
    exact .of_failure rfl
  · rw [shown]
    exact .of_success (w.status_roomView room false)

theorem calm_movement (w : World) (v : Vocabulary) (intent : Intent) :
    (w.carryOutMovement v intent).response.Calm := by
  unfold carryOutMovement
  split
  · rcases w.walk_cases v intent.primaryTarget? with
      ⟨r, failure, same⟩ | ⟨destination, r, _, success, same⟩
    · rw [same]
      exact .of_failure failure
    · rw [same]
      exact .of_success success
  · exact w.calm_look v _
  · exact .of_failure rfl

theorem calm_inventory (w : World) : w.inventory.Calm := by
  unfold inventory
  split
  · exact .of_success rfl
  · exact .of_success rfl

theorem calm_inspect (w : World) (target? : Option String) : (w.inspect target?).Calm := by
  unfold inspect
  split
  · exact .of_failure rfl
  · split
    · exact .of_success rfl
    · exact .of_failure rfl

theorem calm_carrying (w : World) (intent : Intent) :
    (w.carryOutCarrying intent).response.Calm := by
  unfold carryOutCarrying
  split
  · rcases w.take_cases intent.primaryTarget? with ⟨text, same⟩ | ⟨item, r, _, success, same⟩
    · rw [same]
      exact .of_failure rfl
    · rw [same]
      exact .of_success success
  · rcases w.drop_cases intent.primaryTarget? with ⟨text, same⟩ | ⟨item, r, _, success, same⟩
    · rw [same]
      exact .of_failure rfl
    · rw [same]
      exact .of_success success
  · exact w.calm_inventory
  · exact w.calm_inspect _
  · exact .of_failure rfl

theorem calm_interaction (w : World) (intent : Intent) :
    (w.carryOutInteraction intent).response.Calm := by
  rcases w.carryOutInteraction_eq intent with ⟨_, text, same⟩ | ⟨deed, _, same⟩
  · rw [same]
    exact .of_failure rfl
  · rw [same]
    exact .of_success (w.status_carryOutDeed deed)

end World

namespace Game

theorem calm_story (g : Game) (name? : Option String) : (g.story name?).Calm := by
  unfold story
  split
  · exact .of_success rfl
  · exact .of_failure rfl

theorem calm_rollCredits (g : Game) : ∀ entry ∈ g.rollCredits.1, entry.1.Calm := by
  unfold rollCredits
  split
  · intro entry listed
    rw [List.mem_singleton.mp listed]
    exact g.calm_story _
  · intro entry listed
    exact absurd listed List.not_mem_nil

theorem picture_cases (g : Game) (name? : Option String) :
    (∃ text, g.picture name? = .failure text) ∨ ∃ lines, g.picture name? = .art lines := by
  unfold picture
  split
  · exact Or.inr ⟨_, rfl⟩
  · exact Or.inl ⟨_, rfl⟩

theorem calm_picture (g : Game) (name? : Option String) : (g.picture name?).Calm := by
  rcases g.picture_cases name? with ⟨text, failed⟩ | ⟨lines, shown⟩
  · rw [failed]
    exact .of_failure rfl
  · rw [shown]
    exact .of_success rfl

theorem calm_saveCommand (g : Game) : g.saveCommand.response.Calm := by
  rcases g.saveCommand_cases with
    ⟨saved, r, _, success, same⟩ | ⟨partly, error, r, _, failure, same⟩
  · rw [same]
    exact .of_success success
  · rw [same]
    exact .of_failure failure

theorem listAliases_cases (g : Game) (target? : Option String) :
    (∃ text, g.listAliases target? = .failure text) ∨
    ∃ header names, g.listAliases target? = .listing header names := by
  unfold listAliases
  split
  · exact Or.inl ⟨_, rfl⟩
  · split
    · exact Or.inl ⟨_, rfl⟩
    · split
      · exact Or.inl ⟨_, rfl⟩
      · exact Or.inl ⟨_, rfl⟩
      · exact Or.inr ⟨_, _, rfl⟩

theorem calm_listAliases (g : Game) (target? : Option String) : (g.listAliases target?).Calm := by
  rcases g.listAliases_cases target? with ⟨text, failed⟩ | ⟨header, names, listed⟩
  · rw [failed]
    exact .of_failure rfl
  · rw [listed]
    exact .of_success rfl

theorem calm_scroll (g : Game) (target? : Option String) : (g.scroll target?).response.Calm := by
  rcases g.scroll_cases target? with ⟨text, failed⟩ | ⟨speed, text, changed⟩
  · rw [failed]
    exact .of_failure rfl
  · rw [changed]
    exact .of_success rfl

/-- Whether there is no new game to load. -/
def NewGameFails (g : Game) : Prop := ∃ error, g.load .new = .error error

theorem loadCommand_status (g : Game) (mode : LoadMode) :
    (g.loadCommand mode).response.status =
      match g.load mode, mode with
      | .ok _, _ => .success
      | .error _, .new => .error
      | .error _, .resume => .failure := by
  unfold loadCommand
  cases g.load mode <;> cases mode <;> rfl

theorem loadCommand_error_iff (g : Game) (mode : LoadMode) :
    (g.loadCommand mode).response.status = .error ↔ mode = .new ∧ g.NewGameFails := by
  rw [loadCommand_status, NewGameFails]
  cases mode with
  | resume => cases g.load .resume <;> simp
  | new => cases g.load .new <;> simp

/-- Only a saved game can fail to be loaded and leave another choice. -/
theorem resume_of_failure {g : Game} {mode : LoadMode}
    (failure : (g.loadCommand mode).response.status = .failure) : mode = .resume := by
  rw [loadCommand_status] at failure
  cases mode with
  | resume => rfl
  | new => cases read : g.load .new <;> simp [read] at failure

theorem calm_housekeeping (g : Game) {intent : Intent} (other : intent.action ≠ .newGame) :
    (g.carryOutHousekeeping intent).response.Calm := by
  unfold carryOutHousekeeping
  cases action : intent.action <;> simp only
  case tellStory => exact g.calm_story _
  case saveGame => exact g.calm_saveCommand
  case loadGame =>
      intro broken
      exact LoadMode.noConfusion ((g.loadCommand_error_iff .resume).mp broken).1
  case newGame => exact absurd action other
  case aliases => exact g.calm_listAliases _
  case scroll => exact g.calm_scroll _
  case hint => exact .of_success g.status_hint
  case showMap => exact g.calm_picture _
  case draw => exact g.calm_picture _
  all_goals first
    | exact .of_success rfl
    | exact .of_failure rfl

/-- Carrying out an intent is an error exactly if it asks for a new game and there is none. -/
theorem carryOut_error_iff (g : Game) (intent : Intent) :
    (g.carryOut intent).response.status = .error ↔
      intent.action = .newGame ∧ g.NewGameFails := by
  by_cases new : intent.action = .newGame
  · have carried : g.carryOut intent = g.loadCommand .new := by
      simp only [carryOut, carryOutHousekeeping, new, Action.group?]
    rw [carried, loadCommand_error_iff]
    simp [new]
  · refine iff_of_false ?_ fun both => new both.1
    change (g.carryOut intent).response.Calm
    unfold carryOut
    split
    · exact g.world.calm_movement g.vocabulary intent
    · exact g.calm_housekeeping new
    · exact g.world.calm_carrying intent
    · exact g.world.calm_interaction intent
    · exact .of_failure rfl

theorem newGameFails_asked (g : Game) (dialogue : Dialogue) :
    ({ g with dialogue := dialogue } : Game).NewGameFails ↔ g.NewGameFails := by
  unfold NewGameFails load
  dsimp only
  cases World.load g.files (g.directories.world .new) with
  | error error => exact Iff.rfl
  | ok w => simp [bind, Except.bind, pure, Except.pure]

/-- A line is an error exactly if it is read as a new game and there is none. -/
theorem respond_error_iff (g : Game) (line : String) (fromPlayer : Bool) :
    (g.respond line fromPlayer).response.status = .error ↔
      (g.interpret line fromPlayer).1.action = .newGame ∧ g.NewGameFails := by
  by_cases grouped : (g.interpret line fromPlayer).1.action.group? = none
  · have calm : (g.respond line fromPlayer).response.Calm := by
      unfold respond
      generalize g.interpret line fromPlayer = interpreted at grouped
      obtain ⟨intent, asked⟩ := interpreted
      dsimp only at grouped ⊢
      split
      · exact .of_success rfl
      · simp only [carryOut, grouped]
        split
        · exact .of_failure rfl
        · exact .of_failure rfl
    refine iff_of_false calm ?_
    rintro ⟨new, _⟩
    rw [new] at grouped
    contradiction
  · rw [g.respond_carryOut line fromPlayer grouped, interpret_state]
    exact (carryOut_error_iff _ _).trans (and_congr_right fun _ => g.newGameFails_asked _)

end Game

end TextAdventure
