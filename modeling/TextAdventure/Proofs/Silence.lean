import TextAdventure.Proofs.Consent

/-!
# Which lines are answered

A response speaks if there is more to it than blank lines.  Almost all commands answer so, whatever
they come to.  Leaving shows nothing on purpose; but a closer look at an item of which no line is
shown says nothing either, and neither does a story without lines, so that these cannot be told
from a line without words.
-/

set_option autoImplicit false

namespace TextAdventure

namespace Response

/-- There is a message that is not blank. -/
def Speaks (r : Response) : Prop := ∃ message ∈ r.messages, message ≠ .blank

instance (r : Response) : Decidable r.Speaks :=
  inferInstanceAs (Decidable (∃ message ∈ r.messages, message ≠ .blank))

theorem not_speaks_empty : ¬ empty.Speaks := by decide

@[simp]
theorem speaks_remark (status : Status) (text : String) : (remark status text).Speaks :=
  ⟨.line text, by simp [remark], Message.noConfusion⟩

@[simp]
theorem speaks_success (text : String) : (success text).Speaks := speaks_remark _ text

@[simp]
theorem speaks_failure (text : String) : (failure text).Speaks := speaks_remark _ text

@[simp]
theorem speaks_error (text : String) : (error text).Speaks := speaks_remark _ text

@[simp]
theorem speaks_prose (status : Status) (text : String) : (prose status text).Speaks :=
  ⟨.paragraph text, by simp [prose], Message.noConfusion⟩

@[simp]
theorem speaks_headed (header text : String) : (headed header text).Speaks :=
  ⟨.line header, by simp [headed], Message.noConfusion⟩

@[simp]
theorem speaks_listing (header : String) (entries : List String) :
    (listing header entries).Speaks :=
  ⟨.line header, by simp [listing], Message.noConfusion⟩

@[simp]
theorem speaks_art (lines : List String) : (art lines).Speaks :=
  ⟨.art lines, by simp [art], Message.noConfusion⟩

theorem Speaks.extend {r : Response} (speaks : r.Speaks) (other : Response) :
    (r.extend other).Speaks := by
  obtain ⟨message, told, full⟩ := speaks
  exact ⟨message, List.mem_append_left _ told, full⟩

end Response

/-! ## Reading -/

namespace Intent

theorem isSilent_iff {intent : Intent} :
    intent.isSilent = true ↔ intent.action = .unknown ∧ intent.targets = [] := by
  rw [isSilent, Bool.and_eq_true, decide_eq_true_iff, List.isEmpty_iff]

end Intent

namespace Reader

variable (r : Reader) (d : Dialogue)

/-- Only a line without words says nothing: a word alone that means nothing still leaves a slot for
its target. -/
theorem isSilent_interpret_iff (line : String) :
    (r.interpret line d).1.isSilent = true ↔ r.words line = [] := by
  have reads := r.reads_interpret line d
  generalize r.interpret line d = read at reads ⊢
  rw [Intent.isSilent_iff]
  cases reads with
  | nothing wordless => exact iff_of_true ⟨rfl, rfl⟩ wordless
  | oneMap words => simp [words, Intent.withTarget]
  | oneWord words => simp [words, Intent.untargeted]
  | onePlace words => simp [words, Intent.withTarget]
  | oneLost words => simp [words, Intent.untargeted]
  | map words => simp [words, Intent.withTarget]
  | phrase words _ known => simp [words, Intent.withTargets, known]
  | verb words _ known => simp [words, Intent.withTargets, known]
  | place words => simp [words, Intent.withTargets]

end Reader

/-! ## Commands about the world -/

namespace World

variable (w : World)

theorem speaks_refuse (text : String) : (w.refuse text).response.Speaks :=
  Response.speaks_failure text

theorem speaks_roomView (room : Room) (brief : Bool) : (w.roomView room brief).Speaks := by
  cases dropped : w.droppedItems room with
  | nil => simp [roomView, dropped]
  | cons item items =>
      simp only [roomView, dropped]
      exact (Response.speaks_prose _ _).extend _

theorem speaks_enter (room : String) : (w.enter room).response.Speaks := by
  unfold enter
  dsimp only
  split
  · exact speaks_roomView _ _ _
  · exact speaks_refuse _ _

theorem speaks_walk (v : Vocabulary) (target? : Option String) :
    (w.walk v target?).response.Speaks := by
  rw [walk_eq]
  split
  · exact w.speaks_refuse _
  · split
    · exact Response.speaks_prose _ _
    · exact w.speaks_refuse _
    · split
      · exact w.speaks_refuse _
      · split
        · exact w.speaks_refuse _
        · exact w.speaks_enter _

theorem speaks_look (v : Vocabulary) (target? : Option String) : (w.look v target?).Speaks := by
  rcases w.look_cases v target? with ⟨text, failed⟩ | ⟨room, _, shown⟩
  · rw [failed]
    exact Response.speaks_failure text
  · rw [shown]
    exact w.speaks_roomView room false

theorem speaks_take (target? : Option String) : (w.take target?).response.Speaks := by
  unfold take
  split
  · exact w.speaks_refuse _
  · split
    · exact w.speaks_refuse _
    · split
      · exact w.speaks_refuse _
      · split
        · exact w.speaks_refuse _
        · dsimp only
          split
          · exact Response.speaks_headed _ _
          · exact speaks_refuse _ _

theorem speaks_drop (target? : Option String) : (w.drop target?).response.Speaks := by
  unfold drop
  split
  · exact w.speaks_refuse _
  · split
    · exact w.speaks_refuse _
    · split
      · exact w.speaks_refuse _
      · split
        · exact w.speaks_refuse _
        · exact Response.speaks_headed _ _

theorem speaks_inventory : w.inventory.Speaks := by
  unfold inventory
  split
  · exact Response.speaks_success _
  · exact Response.speaks_listing _ _

theorem speaks_interaction (intent : Intent) :
    (w.carryOutInteraction intent).response.Speaks := by
  rcases w.carryOutInteraction_eq intent with ⟨_, text, refused⟩ | ⟨deed, _, done⟩
  · rw [refused]
    exact w.speaks_refuse text
  · rw [done]
    cases deed <;> exact Response.speaks_prose _ _

/-- A target is an item at hand of which a closer look shows no line. -/
structure Bare (w : World) (target? : Option String) (item : Item) : Prop where
  found : target?.bind w.item? = some item
  near : w.nearby item.name = true
  unshown : ∀ line ∈ item.lookLines, w.showsLine item line.1 = false

theorem lineMessages_speak_iff (item : Item) (line : String × String) :
    (∃ message ∈ w.lineMessages item line, message ≠ .blank) ↔
      w.showsLine item line.1 = true := by
  unfold lineMessages
  by_cases shown : w.showsLine item line.1 = true
  · simp only [shown, if_true, iff_true]
    exact ⟨.paragraph _, List.mem_append_right _ (List.mem_singleton.mpr rfl), Message.noConfusion⟩
  · simp [shown]

/-- A closer look is answered unless it shows nothing. -/
theorem speaks_inspect_iff (target? : Option String) :
    (w.inspect target?).Speaks ↔ ¬ ∃ item, w.Bare target? item := by
  cases found : target?.bind w.item? with
  | none =>
      have absent : ¬ ∃ item, w.Bare target? item := by
        rintro ⟨item, bare⟩
        rw [bare.found] at found
        contradiction
      simp [inspect, found, absent]
  | some item =>
      have only : (∃ item, w.Bare target? item) ↔ w.nearby item.name = true ∧
          ∀ line ∈ item.lookLines, w.showsLine item line.1 = false := by
        constructor
        · rintro ⟨other, bare⟩
          obtain rfl : other = item := Option.some.inj (bare.found.symm.trans found)
          exact ⟨bare.near, bare.unshown⟩
        · rintro ⟨near, unshown⟩
          exact ⟨item, found, near, unshown⟩
      rw [only]
      by_cases near : w.nearby item.name = true
      · have shown : (w.inspect target?).Speaks ↔
            ∃ line ∈ item.lookLines, w.showsLine item line.1 = true := by
          simp only [inspect, found, near, if_true, Response.Speaks, List.mem_flatMap]
          constructor
          · rintro ⟨message, ⟨line, listed, told⟩, full⟩
            exact ⟨line, listed, (w.lineMessages_speak_iff item line).mp ⟨message, told, full⟩⟩
          · rintro ⟨line, listed, shows⟩
            obtain ⟨message, told, full⟩ := (w.lineMessages_speak_iff item line).mpr shows
            exact ⟨message, ⟨line, listed, told⟩, full⟩
        rw [shown]
        simp [near]
      · simp [inspect, found, near]

end World

namespace Game

variable (g : Game)

/-! ## Commands about the game -/

theorem speaks_refuse (text : String) : (g.refuse text).response.Speaks :=
  Response.speaks_failure text

/-- A story is told unless there is no line of it. -/
theorem speaks_story_iff (name? : Option String) :
    (g.story name?).Speaks ↔ name?.bind g.stories.find? ≠ some [] := by
  unfold story
  split
  case h_1 lines found =>
      rw [found, Response.Speaks]
      cases lines with
      | nil => simp
      | cons line lines =>
          exact iff_of_true ⟨.paragraph line, by simp, Message.noConfusion⟩ (by simp)
  case h_2 missing =>
      rw [missing]
      exact iff_of_true (Response.speaks_failure _) (by simp)

theorem speaks_picture (name? : Option String) : (g.picture name?).Speaks := by
  rcases g.picture_cases name? with ⟨text, failed⟩ | ⟨lines, shown⟩
  · rw [failed]
    exact Response.speaks_failure text
  · rw [shown]
    exact Response.speaks_art lines

theorem speaks_saveCommand : g.saveCommand.response.Speaks := by
  unfold saveCommand
  split
  · exact Response.speaks_success _
  · exact Response.speaks_failure _

theorem speaks_loadCommand (mode : LoadMode) : (g.loadCommand mode).response.Speaks := by
  unfold loadCommand
  split
  · exact Response.speaks_success _
  · exact Response.speaks_success _
  · exact Response.speaks_error _
  · exact Response.speaks_failure _

theorem speaks_listAliases (target? : Option String) : (g.listAliases target?).Speaks := by
  rcases g.listAliases_cases target? with ⟨text, failed⟩ | ⟨header, names, listed⟩
  · rw [failed]
    exact Response.speaks_failure text
  · rw [listed]
    exact Response.speaks_listing header names

theorem speaks_scroll (target? : Option String) : (g.scroll target?).response.Speaks := by
  rcases g.scroll_cases target? with ⟨text, failed⟩ | ⟨speed, text, changed⟩
  · rw [failed]
    exact g.speaks_refuse text
  · rw [changed]
    exact Response.speaks_success text

theorem speaks_hint : g.hint.response.Speaks := by
  unfold hint
  dsimp only
  split
  · exact Response.speaks_success _
  · exact Response.speaks_listing _ _

/-! ## Intents and lines -/

/-- An intent is carried out without a word: it is to leave, or to look closer at an item of which
no line is shown, or to tell a story without lines. -/
inductive Mute (g : Game) (intent : Intent) : Prop
  | leaving (action : intent.action = .exit)
  | inspecting (action : intent.action = .inspect) (item : Item)
      (bare : g.world.Bare intent.primaryTarget? item)
  | telling (action : intent.action = .tellStory)
      (untold : intent.primaryTarget?.bind g.stories.find? = some [])

variable {g}

theorem speaks_housekeeping {intent : Intent} (loud : ¬ g.Mute intent) :
    (g.carryOutHousekeeping intent).response.Speaks := by
  unfold carryOutHousekeeping
  cases action : intent.action <;> simp only
  case exit => exact absurd (.leaving action) loud
  case tellStory =>
      apply (g.speaks_story_iff _).mpr
      exact fun untold => loud (.telling action untold)
  case saveGame => exact g.speaks_saveCommand
  case loadGame => exact g.speaks_loadCommand .resume
  case newGame => exact g.speaks_loadCommand .new
  case help => exact Response.speaks_listing _ _
  case objectives => exact Response.speaks_listing _ _
  case aliases => exact g.speaks_listAliases _
  case scroll => exact g.speaks_scroll _
  case hint => exact g.speaks_hint
  case showMap => exact g.speaks_picture _
  case draw => exact g.speaks_picture _
  all_goals exact g.speaks_refuse _

theorem speaks_carrying {intent : Intent} (loud : ¬ g.Mute intent) :
    (g.world.carryOutCarrying intent).response.Speaks := by
  unfold World.carryOutCarrying
  split
  case h_1 => exact g.world.speaks_take _
  case h_2 => exact g.world.speaks_drop _
  case h_3 => exact g.world.speaks_inventory
  case h_4 action =>
      apply (g.world.speaks_inspect_iff _).mpr
      rintro ⟨item, bare⟩
      exact loud (.inspecting action item bare)
  case h_5 => exact g.world.speaks_refuse _

theorem speaks_movement (g : Game) (intent : Intent) :
    (g.world.carryOutMovement g.vocabulary intent).response.Speaks := by
  unfold World.carryOutMovement
  split
  · exact g.world.speaks_walk _ _
  · exact g.world.speaks_look _ _
  · exact g.world.speaks_refuse _

theorem Mute.silent {intent : Intent} (mute : g.Mute intent) :
    ¬ (g.carryOut intent).response.Speaks := by
  cases mute with
  | leaving action =>
      simp only [carryOut, carryOutHousekeeping, action, Action.group?]
      exact Response.not_speaks_empty
  | inspecting action item bare =>
      have told : (g.carryOut intent).response = g.world.inspect intent.primaryTarget? := by
        simp only [carryOut, World.carryOutCarrying, action, Action.group?, inWorld, World.answer]
      rw [told, g.world.speaks_inspect_iff]
      exact fun loud => loud ⟨item, bare⟩
  | telling action untold =>
      have told : (g.carryOut intent).response = g.story intent.primaryTarget? := by
        simp only [carryOut, carryOutHousekeeping, action, Action.group?, answer]
      rw [told, g.speaks_story_iff]
      exact fun loud => loud untold

/-- What an intent comes to is told exactly if it is not one of those without a word. -/
theorem speaks_carryOut_iff (g : Game) (intent : Intent) :
    (g.carryOut intent).response.Speaks ↔ ¬ g.Mute intent := by
  constructor
  · exact fun speaks mute => mute.silent speaks
  · intro loud
    unfold carryOut
    split
    · exact g.speaks_movement intent
    · exact speaks_housekeeping loud
    · exact speaks_carrying loud
    · exact g.world.speaks_interaction intent
    · exact g.speaks_refuse _

/-- Whether an intent is without a word depends on the world and the stories only. -/
theorem Mute.of_same {other : Game} {intent : Intent} (world : other.world = g.world)
    (stories : other.stories = g.stories) (mute : g.Mute intent) : other.Mute intent := by
  cases mute with
  | leaving action => exact .leaving action
  | inspecting action item bare => exact .inspecting action item (world ▸ bare)
  | telling action untold => exact .telling action (stories ▸ untold)

/-- A line is answered exactly if it has a word that is no filler, and is not read as leaving, as a
closer look at an item of which no line is shown, or as a story without lines; a player's line is
never read as a story. -/
theorem line_is_answered_iff (g : Game) (line : String) :
    (∀ fromPlayer, (g.respond line fromPlayer).response.Speaks ↔
      (g.reader fromPlayer).words line ≠ [] ∧ ¬ g.Mute (g.interpret line fromPlayer).1) ∧
    (g.interpret line true).1.action ≠ .tellStory := by
  refine ⟨?_, ((g.reader true).guarded_interpret line g.dialogue).story rfl⟩
  intro fromPlayer
  have silent : (g.interpret line fromPlayer).1.isSilent = true ↔
      (g.reader fromPlayer).words line = [] :=
    (g.reader fromPlayer).isSilent_interpret_iff g.dialogue line
  have mute : (g.interpret line fromPlayer).2.Mute (g.interpret line fromPlayer).1 ↔
      g.Mute (g.interpret line fromPlayer).1 :=
    ⟨.of_same rfl rfl, .of_same rfl rfl⟩
  rw [← mute, ne_eq, ← silent]
  unfold respond
  generalize g.interpret line fromPlayer = interpreted
  obtain ⟨intent, asked⟩ := interpreted
  dsimp only
  by_cases quiet : intent.isSilent = true
  · rw [if_pos quiet]
    exact iff_of_false Response.not_speaks_empty fun loud => loud.1 quiet
  · rw [if_neg quiet]
    by_cases declined : intent.action = .declineLoad
    · rw [if_pos declined]
      refine iff_of_true (asked.speaks_refuse _) ⟨quiet, ?_⟩
      rintro (action | ⟨action, _⟩ | ⟨action, _⟩) <;> rw [declined] at action <;> contradiction
    · rw [if_neg declined]
      exact (asked.speaks_carryOut_iff intent).trans (and_iff_right quiet).symm

end Game

namespace PickleQuest

/-- There is nothing more to be seen of the doormat. -/
def plainDoormat : Game :=
  { game with
    world := { world with
      items := items.map fun item =>
        if item.name = "doormat" then { item with lookLines := [] } else item } }

/-- Looking closer at the doormat is answered just as a line without words is. -/
theorem doormat_is_inspected_in_silence :
    (plainDoormat.reader true).words "inspect doormat" ≠ [] ∧
      (plainDoormat.interpret "inspect doormat" true).1.action ≠ .exit ∧
      (plainDoormat.respond "inspect doormat" true).response =
        (plainDoormat.respond "" true).response ∧
      ¬ (plainDoormat.respond "inspect doormat" true).response.Speaks := by
  decide +kernel

end PickleQuest

end TextAdventure
