import TextAdventure.Proofs.FailedSave

/-!
# What a save changes

A save makes the directories that are missing on the way to its directory, and it writes the files
of a world there.  Nothing else in the files changes, and where a directory stands it stays, so all
ways through directories stay open.
-/

set_option autoImplicit false

namespace TextAdventure

/-! ## Places of a world -/

namespace Route

def toFolder (directory : String) : Route := ⟨startOf directory, stepsOf directory, false⟩

/-- The places on the way to a directory, its own included. -/
def wayTo (directory : String) : List Place := (toFolder directory).places

/-- The places of the files of a world in a directory. -/
def filePlaces (directory : String) : List Place :=
  worldFiles.map fun file => (toFolder directory).place ++ [file]

/-- All places on the ways to the files of a world. -/
def worldPlaces (directory : String) : List Place := wayTo directory ++ filePlaces directory

theorem isRoot_startOf (path : String) : Place.isRoot (startOf path) = true := by
  unfold startOf
  split
  · rfl
  · rfl

theorem mem_wayTo {directory : String} {first : List String}
    (begins : first <+: stepsOf directory) (nonempty : first ≠ []) :
    first.foldl Place.follow (startOf directory) ∈ wayTo directory :=
  mem_places.mpr ⟨first, begins, nonempty, rfl⟩

/-- Whether a route leads to a place on the way to a directory, or to where that starts. -/
def OnWay (directory : String) (r : Route) : Prop :=
  r.start = startOf directory ∧ ∃ first, first <+: stepsOf directory ∧
    r.steps.foldl Place.follow r.start = first.foldl Place.follow (startOf directory)

theorem onWay_of_ofPath {directory : String} {r : Route} (spelled : ofPath directory = .ok r) :
    ∀ upper ∈ r :: r.above, upper.OnWay directory := by
  have same := ofPath_eq spelled
  intro upper listed
  rcases List.mem_cons.mp listed with rfl | above
  · exact ⟨by rw [same], stepsOf directory, List.prefix_rfl, by rw [same]⟩
  · obtain ⟨first, begins, rfl⟩ := eq_of_mem_above above
    refine ⟨by rw [same], first, by simpa [same] using begins, ?_⟩
    rw [foldl_follow_filter, same]

end Route

namespace FileTable

/-! ## What a save changes -/

/-- What stands at a place before and after saves to a directory. -/
inductive SavesAt (directory : String) (place : Place) : Option Node → Option Node → Prop
  | kept (stands : Option Node) : SavesAt directory place stands stands
  | made (way : place ∈ Route.wayTo directory) : SavesAt directory place none (some .directory)
  | written (stood : Option Node) (text : String) (listed : place ∈ Route.filePlaces directory)
      (free : stood ≠ some .directory) : SavesAt directory place stood (some (.file text))

theorem SavesAt.trans {directory : String} {place : Place} {first second third : Option Node}
    (before : SavesAt directory place first second)
    (later : SavesAt directory place second third) : SavesAt directory place first third := by
  cases later with
  | kept _ => exact before
  | made way =>
      cases before with
      | kept _ => exact .made way
  | written _ text listed free =>
      cases before with
      | kept _ => exact .written first text listed free
      | made way => exact absurd rfl free
      | written _ _ _ stays => exact .written first text listed stays

def SavesTo (directory : String) (t after : FileTable) : Prop :=
  ∀ place, SavesAt directory place (t.node? place) (after.node? place)

theorem SavesTo.refl (directory : String) (t : FileTable) : SavesTo directory t t :=
  fun _ => .kept _

theorem SavesTo.trans {directory : String} {t middle after : FileTable}
    (first : SavesTo directory t middle) (second : SavesTo directory middle after) :
    SavesTo directory t after :=
  fun place => (first place).trans (second place)

theorem savesTo_set {directory : String} {t : FileTable} {changed : Place} {node : Node}
    (below : ¬ changed.isRoot)
    (change : SavesAt directory changed (t.node? changed) (some node)) :
    SavesTo directory t (t.set changed node) := by
  intro place
  by_cases same : place = changed
  · subst same
    rw [t.node?_set_self node below]
    exact change
  · rw [t.node?_set_other node same]
    exact .kept _

theorem savesTo_makeDirectory {directory : String} {t after : FileTable} {r : Route}
    (way : r.OnWay directory) (made : t.makeDirectory r = .ok after) :
    SavesTo directory t after := by
  obtain ⟨start, first, begins, place_⟩ := way
  obtain ⟨place, walked, missing, rfl⟩ := makeDirectory_ok made
  have below := not_isRoot_of_missing missing
  have leads : place = first.foldl Place.follow (Route.startOf directory) :=
    (eq_foldl_of_walk walked).trans place_
  -- The way starts at a root, which needs not be made.
  have nonempty : first ≠ [] := by
    rintro rfl
    exact below (leads ▸ Route.isRoot_startOf directory)
  apply savesTo_set below
  rw [missing]
  exact .made (leads ▸ Route.mem_wayTo begins nonempty)

theorem savesTo_ensureDirectory {directory : String} {r : Route} (way : r.OnWay directory)
    (t : FileTable) : SavesTo directory t (t.ensureDirectory r).1 := by
  unfold ensureDirectory
  split
  · rename_i made
    exact savesTo_makeDirectory way made
  · exact SavesTo.refl directory t

theorem savesTo_makeChain {directory : String} {routes : List Route}
    (ways : ∀ r ∈ routes, r.OnWay directory) (t : FileTable) :
    SavesTo directory t (t.makeChain routes).1 := by
  induction routes generalizing t with
  | nil => exact SavesTo.refl directory t
  | cons r above ih =>
      have way := ways r List.mem_cons_self
      have first := savesTo_ensureDirectory way t
      rw [makeChain]
      split
      · rename_i tried attempt
        rw [attempt] at first
        have upper := ih (fun r listed => ways r (List.mem_cons_of_mem _ listed)) tried
        split
        · rename_i made complete
          rw [complete] at upper
          exact (first.trans upper).trans (savesTo_ensureDirectory way made)
        · exact first.trans upper
      · exact first

theorem savesTo_makeDirectories (directory : String) (t : FileTable) :
    SavesTo directory t (t.makeDirectories directory).1 := by
  unfold makeDirectories
  split
  · exact SavesTo.refl directory t
  · split
    · exact SavesTo.refl directory t
    · rename_i r spelled
      exact savesTo_makeChain (Route.onWay_of_ofPath spelled) t

/-- A file that is found lies at its place. -/
theorem eq_of_locate_joinPath {directory file : String} (name : IsFileName file) {t : FileTable}
    {place : Place} (found : t.locate (joinPath directory file) = .ok place) :
    place = (Route.toFolder directory).place ++ [file] := by
  obtain ⟨upper, walked, leads⟩ := locate_joinPath name found
  rw [leads, eq_foldl_of_walk walked]
  rfl

theorem mem_filePlaces_of_locate {directory file : String} (listed : file ∈ worldFiles)
    {t : FileTable} {place : Place} (found : t.locate (joinPath directory file) = .ok place) :
    place ∈ Route.filePlaces directory := by
  rw [eq_of_locate_joinPath (isFileName_worldFiles listed) found]
  exact List.mem_map_of_mem listed

theorem savesTo_write {directory file text : String} {t after : FileTable}
    (listed : file ∈ worldFiles) (written : t.write (joinPath directory file) text = .ok after) :
    SavesTo directory t after := by
  obtain ⟨place, found, below, free, rfl⟩ := write_cases (isFileName_worldFiles listed) written
  exact savesTo_set below (.written _ text (mem_filePlaces_of_locate listed found) free)

theorem savesTo_writeFiles {directory : String} {files : List (String × String)}
    (listed : ∀ entry ∈ files, entry.1 ∈ worldFiles) (t : FileTable) :
    SavesTo directory t (writeFiles t directory files).1 := by
  induction files generalizing t with
  | nil => exact SavesTo.refl directory t
  | cons entry rest ih =>
      obtain ⟨file, text⟩ := entry
      cases written : t.write (joinPath directory file) text with
      | error cause =>
          simp only [writeFiles, writeFile, written]
          exact SavesTo.refl directory t
      | ok middle =>
          simp only [writeFiles, writeFile, written]
          have first := savesTo_write (listed _ List.mem_cons_self) written
          have names : ∀ entry ∈ rest, entry.1 ∈ worldFiles :=
            fun entry member => listed entry (List.mem_cons_of_mem _ member)
          exact first.trans (ih names middle)

theorem savesTo_saveWorld (directory : String) (w : World) (t : FileTable) :
    SavesTo directory t (saveWorld t directory w).1 := by
  have made := savesTo_makeDirectories directory t
  unfold saveWorld
  split
  · rename_i attempt
    rw [attempt] at made
    exact made
  · rename_i attempt
    rw [attempt] at made
    exact made.trans (savesTo_writeFiles (fun _ => World.mem_worldFiles) _)

/-! ## What a save leaves -/

theorem SavesAt.of_directory {directory : String} {place : Place} {later : Option Node}
    (saved : SavesAt directory place (some .directory) later) : later = some .directory := by
  cases saved with
  | kept _ => rfl
  | written _ _ _ free => exact absurd rfl free

theorem SavesAt.of_file {directory : String} {place : Place} {text : String} {later : Option Node}
    (saved : SavesAt directory place (some (.file text)) later) :
    ∃ other, later = some (.file other) := by
  cases saved with
  | kept _ => exact ⟨text, rfl⟩
  | written _ other _ _ => exact ⟨other, rfl⟩

theorem SavesTo.keepsDirectories {directory : String} {t after : FileTable}
    (saved : SavesTo directory t after) : t.KeepsDirectories after :=
  fun place inside => (inside ▸ saved place).of_directory

end FileTable

end TextAdventure
