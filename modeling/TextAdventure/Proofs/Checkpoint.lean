import TextAdventure.Proofs.Events
import TextAdventure.Proofs.FilePaths
import TextAdventure.Proofs.RecordText

/-!
# A saved world comes back

A save that succeeds leaves the four texts of the world in the save directory, and loading them
gives the kept part of the world.  Only a save touches the files, so this holds however the game
goes on without one.
-/

set_option autoImplicit false

namespace TextAdventure

/-! ## What a save leaves in the files -/

theorem writeFiles_cons {t after : FileTable} {directory file text : String}
    {rest : List (String × String)}
    (written : writeFiles t directory ((file, text) :: rest) = (after, none)) :
    ∃ middle, t.write (joinPath directory file) text = .ok middle ∧
      writeFiles middle directory rest = (after, none) := by
  simp only [writeFiles, writeFile] at written
  cases first : t.write (joinPath directory file) text with
  | error cause => simp [first] at written
  | ok middle =>
      simp only [first] at written
      exact ⟨middle, rfl, written⟩

theorem read_writeFiles_other {directory other kept : String} (name : IsFileName other)
    {files : List (String × String)} (names : ∀ entry ∈ files, IsFileName entry.1)
    (differs : ∀ entry ∈ files, other ≠ entry.1) {t after : FileTable}
    (written : writeFiles t directory files = (after, none))
    (holds : t.read (joinPath directory other) = .ok kept) :
    after.read (joinPath directory other) = .ok kept := by
  induction files generalizing t with
  | nil =>
      simp only [writeFiles, Prod.mk.injEq, and_true] at written
      exact written ▸ holds
  | cons entry rest ih =>
      obtain ⟨middle, first, later⟩ := writeFiles_cons written
      have still := FileTable.read_write_other (names entry (by simp)) name
        (differs entry (by simp)) first holds
      exact ih (fun entry member => names entry (by simp [member]))
        (fun entry member => differs entry (by simp [member])) later still

/-- Files that are written one after another hold what was written, if their names differ. -/
theorem read_writeFiles {directory : String} {files : List (String × String)}
    (names : ∀ entry ∈ files, IsFileName entry.1) (distinct : (files.map (·.1)).Nodup)
    {t after : FileTable} (written : writeFiles t directory files = (after, none)) :
    ∀ entry ∈ files, after.read (joinPath directory entry.1) = .ok entry.2 := by
  induction files generalizing t with
  | nil => simp
  | cons entry rest ih =>
      obtain ⟨middle, first, later⟩ := writeFiles_cons written
      obtain ⟨fresh, others⟩ := List.nodup_cons.mp distinct
      have name := names entry (by simp)
      have restNames := fun entry member => names entry (List.mem_cons_of_mem _ member)
      intro asked member
      rcases List.mem_cons.mp member with rfl | member
      · have apart : ∀ other ∈ rest, asked.1 ≠ other.1 := by
          intro other listed same
          exact fresh (List.mem_map.mpr ⟨other, listed, same.symm⟩)
        exact read_writeFiles_other name restNames apart later
          (FileTable.read_write_same name first)
      · exact ih restNames others later asked member

namespace World

theorem isFileName_files {w : World} : ∀ entry ∈ w.files, IsFileName entry.1 := by
  have player : IsFileName playerFile := ⟨by decide, by decide, by decide, by decide⟩
  have rooms : IsFileName roomsFile := ⟨by decide, by decide, by decide, by decide⟩
  have items : IsFileName itemsFile := ⟨by decide, by decide, by decide, by decide⟩
  have objectives : IsFileName objectivesFile := ⟨by decide, by decide, by decide, by decide⟩
  simp [files, player, rooms, items, objectives]

theorem nodup_files (w : World) : (w.files.map (·.1)).Nodup := by
  simp only [files, List.map_cons, List.map_nil]
  decide

theorem read_saveWorld {t after : FileTable} {directory : String} {w : World}
    (saved : saveWorld t directory w = (after, none)) :
    ∀ entry ∈ w.files, after.read (joinPath directory entry.1) = .ok entry.2 := by
  unfold saveWorld at saved
  split at saved
  · simp at saved
  · exact read_writeFiles isFileName_files w.nodup_files saved

theorem readValue_toText {α β : Type} {view : α → β} {encode : α → Json}
    {ofJson? : Json → Option β} (h : Json.Restores view encode ofJson?) {t : FileTable}
    {path : String} {a : α} (holds : t.read path = .ok (encode a).toText) :
    readValue t ofJson? path = .ok (view a) := by
  simp [readValue, holds, decode_toText h]

/-- What a save leaves is loaded as the kept part of the world, with the player settled. -/
theorem load_saveWorld {t after : FileTable} {directory : String} {w : World}
    (saved : saveWorld t directory w = (after, none)) :
    load after directory = .ok w.persisted.settlePlayer := by
  have texts := read_saveWorld saved
  simp only [files, List.forall_mem_cons, List.not_mem_nil, false_imp_iff, implies_true,
    and_true] at texts
  obtain ⟨player, rooms, items, objectives⟩ := texts
  have playerBack := readValue_toText Player.restores player
  have roomsBack := readValue_toText Room.restores.list rooms
  have itemsBack := readValue_toText Item.restores.list items
  have objectivesBack := readValue_toText Objective.restores.list objectives
  simp only [List.map_id_fun, id_eq] at playerBack roomsBack itemsBack
  simp [load, itemsOfJson?, roomsOfJson?, objectivesOfJson?, playerBack, roomsBack, itemsBack,
    objectivesBack, bind, Except.bind, pure, Except.pure, persisted]

theorem settlePlayer_of_settled {w : World}
    (settled : (w.room? w.player.location).map (·.name) = some w.player.location) :
    w.settlePlayer = w := by
  obtain ⟨room, found, named⟩ := Option.map_eq_some_iff.mp settled
  simp [settlePlayer, found, named, updatePlayer]

end World

namespace Game

/-! ## Events without a save -/

/-- Whether two games have the same files, and look for them at the same places. -/
def SameFiles (g h : Game) : Prop :=
  h.files = g.files ∧ h.directories = g.directories

theorem SameFiles.refl (g : Game) : SameFiles g g := ⟨rfl, rfl⟩

theorem SameFiles.trans {g h k : Game} (first : SameFiles g h) (second : SameFiles h k) :
    SameFiles g k :=
  ⟨second.1.trans first.1, second.2.trans first.2⟩

theorem sameFiles_withWorld (g : Game) (w : World) : SameFiles g (g.withWorld w) := ⟨rfl, rfl⟩

theorem sameFiles_load (g : Game) (mode : LoadMode) : SameFiles g (g.after (.load mode)) := by
  rcases g.load_cases mode with ⟨w, _, loaded⟩ | ⟨error, _, failed⟩
  · simp only [after, loaded]
    exact g.sameFiles_withWorld _
  · simp only [after, failed]
    exact SameFiles.refl g

theorem Effect.sameFiles {g : Game} {intent : Intent} {outcome : Outcome Game}
    (effect : g.Effect intent outcome) (quiet : intent.request? ≠ some .save) :
    SameFiles g outcome.state := by
  cases effect with
  | hinted action =>
      rw [hint_state]
      exact g.sameFiles_withWorld _
  | saved asked => exact absurd asked quiet
  | loaded mode asked =>
      rw [loadCommand_state]
      exact g.sameFiles_load mode
  | _ => exact ⟨rfl, rfl⟩

theorem sameFiles_line (g : Game) (line : String) (fromPlayer : Bool)
    (quiet : g.request? (.line line fromPlayer) ≠ some .save) :
    SameFiles g (g.after (.line line fromPlayer)) := by
  simp only [after]
  rcases g.respond_cases line fromPlayer with ⟨_, same⟩ | ⟨outcome, effect, same⟩
  · rw [same]
    exact ⟨rfl, rfl⟩
  · rw [same]
    exact effect.sameFiles quiet

theorem sameFiles_after (g : Game) {event : Event} (quiet : g.request? event ≠ some .save) :
    SameFiles g (g.after event) := by
  cases event with
  | line line fromPlayer => exact g.sameFiles_line line fromPlayer quiet
  | turn line =>
      rw [after_turn]
      refine (g.sameFiles_line line true quiet).trans ?_
      rcases (g.after (.line line true)).rollCredits_cases with still | rolled
      · rw [still]
        exact SameFiles.refl _
      · rw [rolled]
        exact sameFiles_withWorld _ _
  | save => exact absurd rfl quiet
  | load mode => exact g.sameFiles_load mode
  | closing =>
      rcases g.after_closing with ⟨_, same⟩ | ⟨dirty, dialogue, _, same⟩
      · rw [same]
        exact SameFiles.refl g
      · have declined : (g.confirm Reply.savePrompt).1 = false := by
          simpa [request?, dirty] using quiet
        rw [same, declined]
        exact ⟨rfl, rfl⟩

/-- Whether no event of a run asks for a save. -/
def Saveless (g : Game) : List Event → Prop
  | [] => True
  | event :: rest => g.request? event ≠ some .save ∧ (g.after event).Saveless rest

theorem sameFiles_run (events : List Event) {g : Game} (quiet : g.Saveless events) :
    SameFiles g (g.run events) := by
  induction events generalizing g with
  | nil => exact SameFiles.refl g
  | cons event rest ih => exact (g.sameFiles_after quiet.1).trans (ih quiet.2)

theorem read_after_save {g : Game} (success : g.save.2 = none)
    (settled :
      (g.world.room? g.world.player.location).map (·.name) = some g.world.player.location) :
    World.load g.save.1.files (g.save.1.directories.world .resume) = .ok g.world.persisted := by
  rcases g.save_cases with ⟨files, written, saved⟩ | ⟨files, error, _, failed⟩
  · have kept : g.world.persisted.settlePlayer = g.world.persisted :=
      World.settlePlayer_of_settled settled
    rw [saved, ← kept]
    exact World.load_saveWorld written
  · rw [failed] at success
    contradiction

theorem load_of_read {g : Game} {mode : LoadMode} {w : World}
    (read : World.load g.files (g.directories.world mode) = .ok w) :
    g.load mode = .ok (g.withWorld { w with dirty := false }) := by
  rcases g.load_cases mode with ⟨other, read', loaded⟩ | ⟨error, read', _⟩
  · rw [loaded, Except.ok.inj (read'.symm.trans read)]
  · rw [read] at read'
    contradiction

/-- After a save that succeeds, and after any events that ask for no other one, resuming puts the
world that was saved in place of the current one, unmarked and with no hint revealed. -/
theorem resume_after_save (g : Game) (success : g.save.2 = none)
    (settled :
      (g.world.room? g.world.player.location).map (·.name) = some g.world.player.location)
    (events : List Event) (quiet : g.save.1.Saveless events) :
    (g.save.1.run events).load .resume =
      .ok ((g.save.1.run events).withWorld g.world.persisted) := by
  -- Loading looks at the files alone, and these are as the save left them.
  obtain ⟨sameFiles, sameDirectories⟩ := sameFiles_run events quiet
  have read := read_after_save success settled
  rw [← sameFiles, ← sameDirectories] at read
  exact load_of_read read

end Game

namespace PickleQuest

/-- The start can be resumed from the kitchen, where the drawer was opened. -/
theorem start_is_resumed :
    let played := game.save.1.run [.line "go north" true, .turn "open drawer"]
    game.save.2 = none ∧ played.load .resume = .ok (played.withWorld game.world.persisted) := by
  intro played
  have success : game.save.2 = none := by decide +kernel
  have settled :
      (game.world.room? game.world.player.location).map (·.name) =
        some game.world.player.location := by
    decide +kernel
  have quiet : game.save.1.Saveless [.line "go north" true, .turn "open drawer"] :=
    ⟨by decide +kernel, by decide +kernel, trivial⟩
  exact ⟨success, game.resume_after_save success settled _ quiet⟩

theorem load_savedStart :
    World.load game.save.1.files game.save.1.directories.save = .ok game.world.persisted :=
  Game.read_after_save (g := game) (by decide +kernel) (by decide +kernel)

theorem resume_savedStart :
    game.save.1.load .resume =
      .ok (game.save.1.withWorld { game.world.persisted with dirty := false }) :=
  Game.load_of_read load_savedStart

end PickleQuest

end TextAdventure
