import TextAdventure.Proofs.Checkpoint
import TextAdventure.Proofs.Directories
import TextAdventure.Proofs.Whereabouts

/-!
# Saves that fail

A save can fail at its directory or at any of its files, after others of them were written.  It
stops right where it fails, and nothing is a file there.  A world counts as saved if all its files
are there, and nothing is loaded from a directory where one is missing.
-/

set_option autoImplicit false

namespace TextAdventure

namespace FileTable

theorem isFile_of_read {t : FileTable} {path text : String} (holds : t.read path = .ok text) :
    t.isFile path = true := by
  unfold read at holds
  unfold isFile
  cases found : t.locate path with
  | error cause => simp [found] at holds
  | ok place =>
      simp only [found] at holds
      split at holds
      · rename_i stands
        simp [stands]
      all_goals contradiction

theorem not_isFile_of_not_locate {t : FileTable} {path : String}
    (nowhere : ∀ place, t.locate path ≠ .ok place) : t.isFile path = false := by
  unfold isFile
  cases found : t.locate path with
  | error cause => rfl
  | ok place => exact absurd found (nowhere place)

/-- What cannot be written is no file: nothing is there, or a directory. -/
theorem not_isFile_of_write_error {t : FileTable} {directory file text : String}
    {cause : FileError} (name : IsFileName file)
    (failed : t.write (joinPath directory file) text = .error cause) :
    t.isFile (joinPath directory file) = false := by
  rw [t.write_joinPath directory name] at failed
  cases found : t.locate (joinPath directory file) with
  | error _ => simp [isFile, found]
  | ok place =>
      have inside : t.node? place = some .directory := by
        apply Classical.byContradiction
        intro free
        simp [found, free] at failed
      simp [isFile, found, inside]

end FileTable

/-! ## The files of a saved world -/

def worldFiles : List String := [playerFile, roomsFile, itemsFile, objectivesFile]

theorem World.map_name_files (w : World) : w.files.map (·.1) = worldFiles := rfl

theorem World.mem_worldFiles {w : World} {entry : String × String} (listed : entry ∈ w.files) :
    entry.1 ∈ worldFiles := by
  rw [← w.map_name_files]
  exact List.mem_map_of_mem listed

theorem World.exists_text (w : World) {file : String} (listed : file ∈ worldFiles) :
    ∃ text, (file, text) ∈ w.files := by
  rw [← w.map_name_files] at listed
  obtain ⟨entry, member, rfl⟩ := List.mem_map.mp listed
  exact ⟨entry.2, member⟩

theorem isFileName_worldFiles {file : String} (listed : file ∈ worldFiles) : IsFileName file := by
  obtain ⟨text, member⟩ := ({} : World).exists_text listed
  exact World.isFileName_files _ member

theorem hasSavedWorld_iff {t : FileTable} {directory : String} :
    hasSavedWorld t directory = true ↔
      ∀ file ∈ worldFiles, t.isFile (joinPath directory file) = true :=
  List.all_eq_true

theorem readValue_eq_ok {α : Type} {t : FileTable} {ofJson? : Json → Option α} {path : String}
    {a : α} (holds : readValue t ofJson? path = .ok a) : ∃ text, t.read path = .ok text := by
  unfold readValue at holds
  split at holds
  · contradiction
  · exact ⟨_, by assumption⟩

/-- Only a complete saved world is loaded. -/
theorem hasSavedWorld_of_load {t : FileTable} {directory : String} {w : World}
    (loaded : World.load t directory = .ok w) : hasSavedWorld t directory = true := by
  have there {α : Type} {ofJson? : Json → Option α} {path : String} {a : α}
      (holds : readValue t ofJson? path = .ok a) : t.isFile path = true := by
    obtain ⟨text, holds⟩ := readValue_eq_ok holds
    exact FileTable.isFile_of_read holds
  unfold World.load at loaded
  simp only [bind_eq_ok] at loaded
  obtain ⟨_, items, _, rooms, _, player, _, objectives, _⟩ := loaded
  simp [hasSavedWorld, there items, there rooms, there player, there objectives]

theorem writeFiles_error {t after : FileTable} {directory : String}
    {files : List (String × String)} {error : StoreError}
    (names : ∀ entry ∈ files, IsFileName entry.1)
    (failed : writeFiles t directory files = (after, some error)) :
    ∃ entry ∈ files, after.isFile (joinPath directory entry.1) = false := by
  induction files generalizing t with
  | nil => simp [writeFiles] at failed
  | cons entry rest ih =>
      obtain ⟨file, text⟩ := entry
      cases written : t.write (joinPath directory file) text with
      | error cause =>
          simp only [writeFiles, writeFile, written, Prod.mk.injEq] at failed
          refine ⟨(file, text), List.mem_cons_self, ?_⟩
          rw [← failed.1]
          exact FileTable.not_isFile_of_write_error (names (file, text) List.mem_cons_self) written
      | ok middle =>
          simp only [writeFiles, writeFile, written] at failed
          obtain ⟨other, listed, missing⟩ :=
            ih (fun other listed => names other (List.mem_cons_of_mem _ listed)) failed
          exact ⟨other, List.mem_cons_of_mem _ listed, missing⟩

theorem saveWorld_error {t after : FileTable} {directory : String} {w : World} {error : StoreError}
    (failed : saveWorld t directory w = (after, some error)) :
    hasSavedWorld after directory = false := by
  have missing : ∃ file ∈ worldFiles, after.isFile (joinPath directory file) = false := by
    unfold saveWorld at failed
    split at failed
    · rename_i made
      obtain ⟨rfl, _⟩ := Prod.mk.inj failed
      have listed : playerFile ∈ worldFiles := List.mem_cons_self
      refine ⟨playerFile, listed, FileTable.not_isFile_of_not_locate ?_⟩
      exact FileTable.not_locate_of_makeDirectories_error made (isFileName_worldFiles listed)
    · obtain ⟨entry, listed, absent⟩ := writeFiles_error World.isFileName_files failed
      exact ⟨entry.1, World.mem_worldFiles listed, absent⟩
  obtain ⟨file, listed, absent⟩ := missing
  apply Bool.eq_false_iff.mpr
  intro complete
  rw [hasSavedWorld_iff.mp complete file listed] at absent
  contradiction

theorem hasSavedWorld_saveWorld {t after : FileTable} {directory : String} {w : World}
    (saved : saveWorld t directory w = (after, none)) : hasSavedWorld after directory = true := by
  apply hasSavedWorld_iff.mpr
  intro file listed
  obtain ⟨text, member⟩ := w.exists_text listed
  exact FileTable.isFile_of_read (World.read_saveWorld saved (file, text) member)

namespace Game

/-- There is nothing to resume while there is no saved game. -/
theorem resume_fails {g : Game} (missing : g.hasSavedGame = false) :
    ∃ cause, g.load .resume = .error cause := by
  rcases g.load_cases .resume with ⟨w, read, _⟩ | ⟨cause, _, failed⟩
  · have complete : g.hasSavedGame = true := hasSavedWorld_of_load read
    rw [complete] at missing
    contradiction
  · exact ⟨cause, failed⟩

/-- A save succeeds exactly if it leaves a saved game. -/
theorem hasSavedGame_save (g : Game) : g.save.1.hasSavedGame = g.save.2.isNone := by
  rcases g.save_cases with ⟨files, written, saved⟩ | ⟨files, error, written, failed⟩
  · rw [saved]
    exact hasSavedWorld_saveWorld written
  · rw [failed]
    exact saveWorld_error written

/-- What a save that failed has left is not resumed, whatever comes next, until the next save. -/
theorem unresumable_until_saved {g : Game} {error : StoreError} (failed : g.save.2 = some error)
    (events : List Event) (quiet : g.save.1.Saveless events) :
    ∃ cause, (g.save.1.run events).load .resume = .error cause := by
  obtain ⟨sameFiles, sameDirectories⟩ := sameFiles_run events quiet
  refine resume_fails ?_
  unfold hasSavedGame
  rw [sameFiles, sameDirectories]
  exact g.hasSavedGame_save.trans (by rw [failed]; rfl)

/-- Half-written saves are never resumed.  A save that fails leaves the world as it is, with all
that is unsaved in it, and no saved game, so that resuming fails and changes nothing.  One that
succeeds leaves a saved game, and nothing to save. -/
theorem half_written_save_is_not_resumed (g : Game) :
    (g.save.2 = none →
      g.save.1.hasSavedGame = true ∧ g.save.1.world = { g.world with dirty := false }) ∧
    ∀ error, g.save.2 = some error →
      g.save.1.world = g.world ∧ g.save.1.hasSavedGame = false ∧
        (∃ cause, g.save.1.load .resume = .error cause) ∧
        g.save.1.after (.load .resume) = g.save.1 := by
  rcases g.save_cases with ⟨files, _, saved⟩ | ⟨files, error, _, failed⟩
  · have complete : g.save.1.hasSavedGame = true := by rw [hasSavedGame_save, saved]; rfl
    constructor
    · exact fun _ => ⟨complete, by rw [saved]⟩
    · intro error failed
      rw [saved] at failed
      contradiction
  · have missing : g.save.1.hasSavedGame = false := by rw [hasSavedGame_save, failed]; rfl
    constructor
    · intro success
      rw [failed] at success
      contradiction
    · intro _ _
      obtain ⟨cause, refused⟩ := resume_fails missing
      exact ⟨by rw [failed], missing, ⟨cause, refused⟩, by simp [after, refused, Except.toOption]⟩

end Game

namespace PickleQuest

/-- A save directory with an old player in it, where a directory stands in the place of the
rooms. -/
def blockedFiles : FileTable := ⟨[
  (["save"], .directory),
  (["save", "player.json"], .file "an old player"),
  (["save", "rooms.json"], .directory)]⟩

/-- The start is saved where nothing is in the way.  Else the player is written and then the save
fails, and the start cannot be resumed. -/
theorem blocked_start_is_not_resumed :
    (game.save.2 = none ∧ game.save.1.hasSavedGame = true) ∧
    ∀ blocked, blocked = { game with files := blockedFiles } →
      blocked.save.2 = some (.write "save/rooms.json" .isADirectory) ∧
      blocked.save.1.files.isFile "save/player.json" = true ∧
      blocked.save.1.hasSavedGame = false ∧
      ∃ cause, blocked.save.1.load .resume = .error cause := by
  have success : game.save.2 = none := by decide +kernel
  refine ⟨⟨success, (game.half_written_save_is_not_resumed.1 success).1⟩, ?_⟩
  rintro blocked rfl
  have failed : ({ game with files := blockedFiles } : Game).save.2 =
      some (.write "save/rooms.json" .isADirectory) := by
    decide +kernel
  obtain ⟨_, missing, refused, _⟩ :=
    ({ game with files := blockedFiles } : Game).half_written_save_is_not_resumed.2 _ failed
  exact ⟨failed, by decide +kernel, missing, refused⟩

end PickleQuest

end TextAdventure
