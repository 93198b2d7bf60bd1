import Mathlib.Data.List.Forall2
import TextAdventure.Proofs.SavedFiles

/-!
# Saving again

What a save makes and which files it writes depends on what stands where, and not on the texts of
the files that it writes.  All of it is there after the first save, so a second one changes nothing
but these texts.
-/

set_option autoImplicit false

namespace TextAdventure

namespace FileTable

/-! ## Tables that differ in saved texts -/

/-- What stands at a place of two tables that differ in no more than the texts of saved files. -/
inductive SameAt (directory : String) (place : Place) : Option Node → Option Node → Prop
  | kept (stands : Option Node) : SameAt directory place stands stands
  | reworded (text other : String) (listed : place ∈ Route.filePlaces directory) :
      SameAt directory place (some (.file text)) (some (.file other))

/-- Whether two tables differ in no more than the texts of files saved to a directory. -/
def SameShape (directory : String) (t u : FileTable) : Prop :=
  ∀ place, SameAt directory place (t.node? place) (u.node? place)

section

variable {directory : String} {place : Place}

theorem SameAt.trans {first second third : Option Node}
    (early : SameAt directory place first second) (late : SameAt directory place second third) :
    SameAt directory place first third := by
  cases early with
  | kept _ => exact late
  | reworded text _ listed =>
      cases late with
      | kept _ => exact .reworded text _ listed
      | reworded _ other _ => exact .reworded text other listed

theorem SameAt.savesAt {first second : Option Node} (same : SameAt directory place first second) :
    SavesAt directory place first second := by
  cases same with
  | kept _ => exact .kept _
  | reworded _ other listed => exact .written _ other listed (by simp)

theorem SameAt.eq_none_iff {first second : Option Node}
    (same : SameAt directory place first second) : second = none ↔ first = none := by
  cases same with
  | kept _ => rfl
  | reworded _ _ _ => simp

theorem SameAt.eq_directory_iff {first second : Option Node}
    (same : SameAt directory place first second) :
    second = some .directory ↔ first = some .directory := by
  cases same with
  | kept _ => rfl
  | reworded _ _ _ => simp

variable {t u v : FileTable}

theorem SameShape.refl (directory : String) (t : FileTable) : SameShape directory t t :=
  fun _ => .kept _

theorem SameShape.trans (early : SameShape directory t u) (late : SameShape directory u v) :
    SameShape directory t v :=
  fun place => (early place).trans (late place)

theorem SameShape.savesTo (same : SameShape directory t u) : SavesTo directory t u :=
  fun place => (same place).savesAt

theorem SameShape.set (same : SameShape directory t u) {changed : Place} {node other : Node}
    (change : SameAt directory changed (some node) (some other)) :
    SameShape directory (t.set changed node) (u.set changed other) := by
  intro place
  by_cases here : place = changed
  · subst here
    by_cases root : place.isRoot
    · simp only [node?, root, if_true]
      exact .kept _
    · rw [t.node?_set_self node root, u.node?_set_self other root]
      exact change
  · rw [t.node?_set_other node here, u.node?_set_other other here]
    exact same place

/-! ## Each step of a save -/

theorem SameAt.passing {first second : Option Node} (same : SameAt directory place first second) :
    passing second = passing first := by
  cases same <;> rfl

theorem SameShape.walk_eq (same : SameShape directory t u) (place : Place) (steps : List String) :
    u.walk place steps = t.walk place steps := by
  induction steps generalizing place with
  | nil => rfl
  | cons step rest ih => rw [walk_cons, walk_cons, (same place).passing, ih]

theorem SameShape.locate_eq (same : SameShape directory t u) (path : String) :
    u.locate path = t.locate path := by
  simp only [locate, same.walk_eq]

theorem SameShape.leadsToDirectory_eq (same : SameShape directory t u) (r : Route) :
    u.leadsToDirectory r = t.leadsToDirectory r := by
  simp only [leadsToDirectory, same.walk_eq, (same _).eq_directory_iff]

/-- Whether two attempts fail alike, or leave tables of the same shape alike. -/
structure SameDone {ε : Type} (directory : String) (first second : FileTable × Option ε) :
    Prop where
  tables : SameShape directory first.1 second.1
  errors : second.2 = first.2

theorem SameShape.ensureDirectory (same : SameShape directory t u) (r : Route) :
    SameDone directory (t.ensureDirectory r) (u.ensureDirectory r) := by
  unfold FileTable.ensureDirectory makeDirectory
  rw [same.walk_eq, same.leadsToDirectory_eq]
  cases t.walk r.start r.steps with
  | error cause => exact ⟨same, rfl⟩
  | ok place =>
      have here := same place
      cases stands : t.node? place with
      | none =>
          have missing := here.eq_none_iff.mpr stands
          simp only [stands, missing]
          exact ⟨same.set (.kept _), rfl⟩
      | some node =>
          have there : u.node? place ≠ none := by
            rw [ne_eq, here.eq_none_iff, stands]
            exact Option.some_ne_none node
          obtain ⟨other, stands'⟩ := Option.ne_none_iff_exists'.mp there
          simp only [stands, stands']
          exact ⟨same, rfl⟩

theorem SameShape.makeChain (same : SameShape directory t u) (routes : List Route) :
    SameDone directory (t.makeChain routes) (u.makeChain routes) := by
  induction routes generalizing t u with
  | nil => exact ⟨same, rfl⟩
  | cons r above ih =>
      have tried := same.ensureDirectory r
      have higher := ih tried.tables
      rw [makeChain_cons, makeChain_cons, tried.errors, higher.errors]
      split
      · split
        · exact higher.tables.ensureDirectory r
        · exact higher
      · exact tried

theorem SameShape.makeDirectories (same : SameShape directory t u) (path : String) :
    SameDone directory (t.makeDirectories path) (u.makeDirectories path) := by
  unfold FileTable.makeDirectories
  split
  · exact ⟨same, rfl⟩
  · cases Route.ofPath path with
    | error cause => exact ⟨same, rfl⟩
    | ok r => exact same.makeChain (r :: r.above)

/-- Writing a file goes alike, whatever is written. -/
theorem SameShape.write (same : SameShape directory t u) {file : String}
    (listed : file ∈ worldFiles) (text other : String) :
    (∃ cause, t.write (joinPath directory file) text = .error cause ∧
        u.write (joinPath directory file) other = .error cause) ∨
      ∃ after later, t.write (joinPath directory file) text = .ok after ∧
        u.write (joinPath directory file) other = .ok later ∧ SameShape directory after later := by
  have name := isFileName_worldFiles listed
  rw [t.write_joinPath directory name, u.write_joinPath directory name, same.locate_eq]
  cases found : t.locate (joinPath directory file) with
  | error cause => exact Or.inl ⟨cause, rfl, rfl⟩
  | ok place =>
      simp only [(same place).eq_directory_iff]
      split
      · exact Or.inl ⟨_, rfl, rfl⟩
      · have place_ := mem_filePlaces_of_locate listed found
        exact Or.inr ⟨_, _, rfl, rfl, same.set (.reworded text other place_)⟩

/-- Whether the same file of a world is written, whatever is written to it. -/
def SameFile (entry other : String × String) : Prop :=
  other.1 = entry.1 ∧ entry.1 ∈ worldFiles

theorem sameFile_files (w later : World) : List.Forall₂ SameFile w.files later.files := by
  simp [World.files, SameFile, worldFiles]

theorem SameShape.writeFiles (same : SameShape directory t u)
    {files others : List (String × String)} (alike : List.Forall₂ SameFile files others) :
    SameDone directory (writeFiles t directory files) (writeFiles u directory others) := by
  induction alike generalizing t u with
  | nil => exact ⟨same, rfl⟩
  | @cons entry other _ _ alike _ ih =>
      obtain ⟨file, text⟩ := entry
      obtain ⟨_, rewritten⟩ := other
      obtain ⟨rfl, listed⟩ := alike
      rcases same.write listed text rewritten with
        ⟨cause, failed, failed'⟩ | ⟨after, later, done, done', agree⟩
      · simp only [TextAdventure.writeFiles, writeFile, failed, failed']
        exact ⟨same, rfl⟩
      · simp only [TextAdventure.writeFiles, writeFile, done, done']
        exact ih agree

theorem SameShape.saveWorld (same : SameShape directory t u) (w later : World) :
    SameShape directory (saveWorld t directory w).1 (saveWorld u directory later).1 := by
  have made := same.makeDirectories directory
  have written := made.tables.writeFiles (sameFile_files w later)
  unfold TextAdventure.saveWorld
  cases first : t.makeDirectories directory with
  | mk after error =>
      cases second : u.makeDirectories directory with
      | mk after' error' =>
          rw [first, second] at made written
          obtain rfl : error' = error := made.errors
          cases error' with
          | some cause => exact made.tables
          | none => exact written.tables

/-! ## The same save again -/

theorem sameShape_set_file {stood text : String} (below : ¬ place.isRoot)
    (stands : t.node? place = some (.file stood)) (listed : place ∈ Route.filePlaces directory) :
    SameShape directory t (t.set place (.file text)) := by
  intro other
  by_cases here : other = place
  · subst here
    rw [stands, t.node?_set_self _ below]
    exact .reworded stood text listed
  · rw [t.node?_set_other _ here]
    exact .kept _

/-- A file that was written can be written again, while nothing but saves is done. -/
theorem write_again {file text : String} (listed : file ∈ worldFiles) {after : FileTable}
    (written : t.write (joinPath directory file) text = .ok after)
    (saved : SavesTo directory after u) (other : String) :
    ∃ later, u.write (joinPath directory file) other = .ok later ∧ SameShape directory u later := by
  have name := isFileName_worldFiles listed
  obtain ⟨place, found, below, free, rfl⟩ := write_cases name written
  have found' : u.locate (joinPath directory file) = .ok place :=
    saved.keepsDirectories.locate ((keepsDirectories_set _ free).locate found)
  have stood : (t.set place (.file text)).node? place = some (.file text) :=
    t.node?_set_self _ below
  obtain ⟨kept, stands⟩ := (stood ▸ saved place).of_file
  refine ⟨u.set place (.file other), ?_, ?_⟩
  · rw [u.write_joinPath directory name, found']
    simp [stands]
  · exact sameShape_set_file below stands (mem_filePlaces_of_locate listed found)

theorem writeFiles_again {files : List (String × String)}
    (listed : ∀ entry ∈ files, entry.1 ∈ worldFiles) (t : FileTable) :
    SameShape directory (writeFiles t directory files).1
      (writeFiles (writeFiles t directory files).1 directory files).1 := by
  induction files generalizing t with
  | nil => exact SameShape.refl directory t
  | cons entry rest ih =>
      obtain ⟨file, text⟩ := entry
      obtain ⟨here, later⟩ := List.forall_mem_cons.mp listed
      cases written : t.write (joinPath directory file) text with
      | error cause =>
          simp only [writeFiles, writeFile, written]
          exact SameShape.refl directory t
      | ok after =>
          have saved : SavesTo directory after (writeFiles after directory rest).1 :=
            savesTo_writeFiles later after
          -- The files after it leave it a file, so it is written again; to those it makes no
          -- difference which text it holds.
          obtain ⟨again, rewritten, agree⟩ := write_again here written saved text
          have alike : List.Forall₂ SameFile rest rest :=
            List.forall₂_same.mpr fun entry member => ⟨rfl, later entry member⟩
          simp only [writeFiles, writeFile, written, rewritten]
          exact (ih later after).trans (agree.writeFiles alike).tables

theorem writeFiles_fst_of_not_locate {files : List (String × String)}
    (listed : ∀ entry ∈ files, entry.1 ∈ worldFiles)
    (nowhere : ∀ {file : String}, IsFileName file → ∀ place,
      t.locate (joinPath directory file) ≠ .ok place) :
    (writeFiles t directory files).1 = t := by
  cases files with
  | nil => rfl
  | cons entry rest =>
      obtain ⟨file, text⟩ := entry
      have name := isFileName_worldFiles (listed _ List.mem_cons_self)
      cases written : t.write (joinPath directory file) text with
      | error cause => simp only [writeFiles, writeFile, written]
      | ok after =>
          obtain ⟨place, found, _⟩ := write_cases name written
          exact absurd found (nowhere name place)

theorem saveWorld_of_made {w : World} (made : t.makeDirectories directory = (u, none)) :
    saveWorld t directory w = writeFiles u directory w.files := by
  simp [saveWorld, made]

/-- Where the directory could not be made, a save does nothing more. -/
theorem saveWorld_fst_of_error {cause : FileError}
    (failed : t.makeDirectories directory = (u, some cause)) (w : World) :
    (saveWorld u directory w).1 = u := by
  have still : (u.makeDirectories directory).1 = u := by
    simpa [failed] using t.makeDirectories_again directory
  cases again : u.makeDirectories directory with
  | mk after error =>
      obtain rfl : after = u := by simpa [again] using still
      cases error with
      | some cause => simp [saveWorld, again]
      | none =>
          -- Though the directory counts as made this time, there is no way to its files.
          rw [saveWorld_of_made again]
          exact writeFiles_fst_of_not_locate (fun _ => World.mem_worldFiles)
            (not_locate_of_makeDirectories_error failed)

/-- A save right after another one leaves a table of the same shape, whatever is saved. -/
theorem sameShape_saveWorld (t : FileTable) (directory : String) (w later : World) :
    SameShape directory (saveWorld t directory w).1
      (saveWorld (saveWorld t directory w).1 directory later).1 := by
  suffices again : SameShape directory (saveWorld t directory w).1
      (saveWorld (saveWorld t directory w).1 directory w).1 from
    again.trans ((SameShape.refl directory _).saveWorld w later)
  have listed : ∀ entry ∈ w.files, entry.1 ∈ worldFiles := fun _ => World.mem_worldFiles
  cases made : t.makeDirectories directory with
  | mk after error =>
      cases error with
      | some cause =>
          have first : (saveWorld t directory w).1 = after := by simp [saveWorld, made]
          rw [first, saveWorld_fst_of_error made]
          exact SameShape.refl directory after
      | none =>
          have saved : SavesTo directory after (writeFiles after directory w.files).1 :=
            savesTo_writeFiles listed after
          have second : (writeFiles after directory w.files).1.makeDirectories directory =
              ((writeFiles after directory w.files).1, none) := by
            apply makeDirectories_of_keepsDirectories (t := t)
            · rw [made]
            · rw [made]
              exact saved.keepsDirectories
          rw [saveWorld_of_made made, saveWorld_of_made second]
          exact writeFiles_again listed after

end

end FileTable

end TextAdventure
