import TextAdventure.Proofs.Words
import TextAdventure.Storage.GameFiles

/-!
# Files that are written are there

Writing changes one place that holds no directory, so no path that leads somewhere is cut off by it.
The files of one directory lie at different places, and so each keeps its text while the others are
written.
-/

set_option autoImplicit false

namespace TextAdventure

/-! ## Paths of files -/

/-- A name that a file in a directory can have. -/
structure IsFileName (file : String) : Prop where
  nonempty : file.toList ≠ []
  slashless : '/' ∉ file.toList
  notDot : file ≠ "."
  notDots : file ≠ ".."

namespace Route

/-- Where a path starts. -/
def startOf (path : String) : Place :=
  if path.toList.head? = some '/' then ["/"] else []

/-- The names that a path spells. -/
def stepsOf (path : String) : List String :=
  Text.runsAfter (· == '/') [] path.toList

theorem ofPath_eq {path : String} {r : Route} (h : ofPath path = .ok r) :
    r = ⟨startOf path, stepsOf path, path.toList.getLast? = some '/'⟩ := by
  unfold ofPath at h
  split at h
  · contradiction
  · split at h
    · contradiction
    · split at h
      · contradiction
      · exact (Except.ok.inj h).symm

theorem stepsOf_file {file : String} (name : IsFileName file) : stepsOf file = [file] := by
  have slashless : ∀ c ∈ file.toList, (c == '/') = false := by
    intro c member
    simp only [beq_eq_false_iff_ne, ne_eq]
    rintro rfl
    exact name.slashless member
  exact Text.runsAfter_self name.nonempty slashless

theorem joinPath_toList (directory file : String) :
    (joinPath directory file).toList = directory.toList ++ file.toList ∧
        (directory = "" ∨ ∃ init, directory.toList = init ++ ['/']) ∨
      (joinPath directory file).toList = directory.toList ++ '/' :: file.toList ∧
        directory ≠ "" := by
  unfold joinPath
  by_cases empty : directory = ""
  · exact Or.inl ⟨by simp [empty], Or.inl empty⟩
  · by_cases slash : directory.toList.getLast? = some '/'
    · exact Or.inl ⟨by simp [slash], Or.inr (List.getLast?_eq_some_iff.mp slash)⟩
    · exact Or.inr ⟨by simp [empty, slash], empty⟩

theorem stepsOf_joinPath (directory : String) {file : String} (name : IsFileName file) :
    stepsOf (joinPath directory file) = stepsOf directory ++ [file] := by
  have last := stepsOf_file name
  unfold stepsOf at last ⊢
  rcases joinPath_toList directory file with ⟨joined, rfl | ⟨init, ends⟩⟩ | ⟨joined, _⟩
  · simpa [joined, Text.runsAfter, Text.closeRun] using last
  · rw [joined, ends, List.append_assoc, List.singleton_append,
      Text.runsAfter_append_stop (by decide), Text.runsAfter_append_stop (by decide), last]
    simp [Text.runsAfter, Text.closeRun]
  · rw [joined, Text.runsAfter_append_stop (by decide), last]

theorem startOf_joinPath (directory : String) {file : String} (name : IsFileName file) :
    startOf (joinPath directory file) = startOf directory := by
  have relative : file.toList.head? ≠ some '/' :=
    fun first => name.slashless (List.mem_of_head? first)
  unfold startOf
  rcases joinPath_toList directory file with ⟨joined, rfl | ⟨init, ends⟩⟩ | ⟨joined, nonempty⟩
  · simp [joined, relative]
  · simp [joined, ends, List.head?_append]
  · cases letters : directory.toList with
    | nil => exact absurd (String.toList_eq_nil_iff.mp letters) nonempty
    | cons c rest => simp [joined, letters]

/-- The path of a file in a directory spells the route to the directory and one step more. -/
theorem ofPath_joinPath {directory file : String} (name : IsFileName file) {r : Route}
    (h : ofPath (joinPath directory file) = .ok r) :
    r = ⟨startOf directory, stepsOf directory ++ [file], false⟩ := by
  have last : (joinPath directory file).toList.getLast? ≠ some '/' := by
    have ending : (joinPath directory file).toList.getLast? = file.toList.getLast? := by
      obtain ⟨c, rest, letters⟩ := List.exists_cons_of_ne_nil name.nonempty
      rcases joinPath_toList directory file with ⟨joined, _⟩ | ⟨joined, _⟩
      · simp [joined, letters, List.getLast?_append, List.getLast?_cons]
      · simp [joined, letters, List.getLast?_append, List.getLast?_cons]
    rw [ending]
    exact fun final => name.slashless (List.mem_of_getLast? final)
  rw [ofPath_eq h, startOf_joinPath directory name, stepsOf_joinPath directory name]
  simp [last]

end Route

/-! ## Places in a table -/

namespace FileTable

theorem lookup_filter_ne {α β : Type} [BEq α] [LawfulBEq α] {gone other : α}
    (differs : other ≠ gone) (entries : List (α × β)) :
    (entries.filter (·.1 != gone)).lookup other = entries.lookup other := by
  induction entries with
  | nil => rfl
  | cons entry rest ih =>
      obtain ⟨key, value⟩ := entry
      by_cases removed : key = gone
      · subst removed
        have skipped : (other == key) = false := by simpa using differs
        simp [ih, List.lookup_cons, skipped]
      · have kept : (key != gone) = true := by simpa using removed
        simp [kept, List.lookup_cons, ih]

theorem node?_set_self (t : FileTable) {place : Place} (node : Node) (below : ¬ place.isRoot) :
    (t.set place node).node? place = some node := by
  simp [node?, set, below]

theorem node?_set_other (t : FileTable) {place other : Place} (node : Node)
    (differs : other ≠ place) : (t.set place node).node? other = t.node? other := by
  have skipped : (other == place) = false := by simpa using differs
  simp [node?, set, List.lookup_cons, skipped, lookup_filter_ne differs]

theorem walk_append (t : FileTable) (place : Place) (first second : List String) :
    t.walk place (first ++ second) =
      match t.walk place first with
      | .ok middle => t.walk middle second
      | .error cause => .error cause := by
  induction first generalizing place with
  | nil => rfl
  | cons step rest ih =>
      simp only [List.cons_append, walk]
      split
      · rfl
      · split
        · rfl
        · exact ih _
      · rfl

/-- How a step out of a place goes, from what stands there. -/
def passing : Option Node → Except FileError Unit
  | none => .error .notFound
  | some .directory => .ok ()
  | some _ => .error .notADirectory

theorem walk_cons (t : FileTable) (place : Place) (step : String) (rest : List String) :
    t.walk place (step :: rest) =
      match passing (t.node? place) with
      | .error cause => .error cause
      | .ok _ =>
          if Route.nameLimit < step.utf8ByteSize then .error .nameTooLong
          else t.walk (place.follow step) rest := by
  rw [walk]
  cases t.node? place with
  | none => rfl
  | some node => cases node <;> rfl

theorem walk_cons_eq_ok {t : FileTable} {place last : Place} {step : String} {rest : List String} :
    t.walk place (step :: rest) = .ok last ↔
      t.node? place = some .directory ∧ step.utf8ByteSize ≤ Route.nameLimit ∧
        t.walk (place.follow step) rest = .ok last := by
  rw [walk]
  cases stands : t.node? place with
  | none => simp
  | some inside =>
      cases inside with
      | file text => simp
      | garbledFile => simp
      | directory =>
          by_cases long : Route.nameLimit < step.utf8ByteSize
          · simp [long, Nat.not_le_of_lt long]
          · simp [long, Nat.le_of_not_lt long]

/-- Whether each directory of a table is also one of another. -/
def KeepsDirectories (t after : FileTable) : Prop :=
  ∀ place, t.node? place = some .directory → after.node? place = some .directory

/-- No way is cut off where all directories stay. -/
theorem KeepsDirectories.walk {t after : FileTable} (kept : t.KeepsDirectories after)
    {place last : Place} {steps : List String} (walked : t.walk place steps = .ok last) :
    after.walk place steps = .ok last := by
  induction steps generalizing place with
  | nil => exact walked
  | cons step rest ih =>
      obtain ⟨inside, short, further⟩ := walk_cons_eq_ok.mp walked
      exact walk_cons_eq_ok.mpr ⟨kept place inside, short, ih further⟩

theorem KeepsDirectories.locate {t after : FileTable} (kept : t.KeepsDirectories after)
    {path : String} {place : Place} (found : t.locate path = .ok place) :
    after.locate path = .ok place := by
  unfold FileTable.locate at found ⊢
  cases route : Route.ofPath path with
  | error cause => simp [route, bind, Except.bind] at found
  | ok r =>
      simp only [route, bind, Except.bind] at found ⊢
      exact kept.walk found

theorem keepsDirectories_set {t : FileTable} {changed : Place} (node : Node)
    (free : t.node? changed ≠ some .directory) : t.KeepsDirectories (t.set changed node) := by
  intro place stands
  have elsewhere : place ≠ changed := fun same => free (same ▸ stands)
  rw [t.node?_set_other node elsewhere, stands]

/-- The way to a file of a directory, whatever is on it. -/
theorem locate_eq_walk (t : FileTable) {directory file : String} (name : IsFileName file)
    {r : Route} (spelled : Route.ofPath (joinPath directory file) = .ok r) :
    t.locate (joinPath directory file) =
      t.walk (Route.startOf directory) (Route.stepsOf directory ++ [file]) := by
  simp only [locate, spelled, Route.ofPath_joinPath name spelled, Route.fullSteps,
    Bool.false_eq_true, if_false, bind, Except.bind]

theorem walk_of_locate {t : FileTable} {directory file : String} (name : IsFileName file)
    {place : Place} (found : t.locate (joinPath directory file) = .ok place) :
    t.walk (Route.startOf directory) (Route.stepsOf directory ++ [file]) = .ok place := by
  cases spelled : Route.ofPath (joinPath directory file) with
  | error cause => simp [locate, spelled, bind, Except.bind] at found
  | ok r => rw [← found, t.locate_eq_walk name spelled]

/-- A file lies right below the place that its directory leads to. -/
theorem locate_joinPath {t : FileTable} {directory file : String} (name : IsFileName file)
    {place : Place} (found : t.locate (joinPath directory file) = .ok place) :
    ∃ upper, t.walk (Route.startOf directory) (Route.stepsOf directory) = .ok upper ∧
      place = upper ++ [file] := by
  have walked := walk_of_locate name found
  rw [walk_append] at walked
  cases reached : t.walk (Route.startOf directory) (Route.stepsOf directory) with
  | error cause => simp [reached] at walked
  | ok upper =>
      have followed : upper.follow file = upper ++ [file] := by
        simp [Place.follow, name.notDot, name.notDots]
      simp only [reached] at walked
      have last := (walk_cons_eq_ok.mp walked).2.2
      rw [followed] at last
      exact ⟨upper, rfl, (Except.ok.inj last).symm⟩

theorem not_isRoot_file {file : String} (name : IsFileName file) (upper : Place) :
    ¬ Place.isRoot (upper ++ [file]) := by
  have notSlash : file ≠ "/" := by
    rintro rfl
    exact name.slashless (by decide)
  simp only [Place.isRoot, Bool.or_eq_true, decide_eq_true_eq, List.all_append, List.all_cons,
    List.all_nil, Bool.and_true, Bool.and_eq_true, beq_iff_eq, not_or, not_and]
  refine ⟨fun same => ?_, fun _ => name.notDots⟩
  cases upper with
  | nil => exact notSlash (by simpa using same)
  | cons step rest => simp at same

/-- Writing a file of a directory, by the place of the file. -/
theorem write_joinPath (t : FileTable) (directory : String) {file : String} (name : IsFileName file)
    (text : String) :
    t.write (joinPath directory file) text =
      match t.locate (joinPath directory file) with
      | .error cause => .error cause
      | .ok place =>
          if t.node? place = some .directory then .error .isADirectory
          else .ok (t.set place (.file text)) := by
  unfold write locate
  cases route : Route.ofPath (joinPath directory file) with
  | error cause => rfl
  | ok r =>
      have plain : r.toDirectory = false := by rw [Route.ofPath_joinPath name route]
      simp only [bind, Except.bind, Route.fullSteps, plain, Bool.false_eq_true, if_false,
        Bool.false_or, decide_eq_true_eq]
      cases t.walk r.start r.steps with
      | error cause => rfl
      | ok place =>
          by_cases inside : t.node? place = some .directory
          · simp [inside, throw, throwThe, MonadExceptOf.throw]
          · simp [inside, pure, Except.pure]

/-- What writing a file of a directory does. -/
theorem write_cases {t after : FileTable} {directory file text : String} (name : IsFileName file)
    (written : t.write (joinPath directory file) text = .ok after) :
    ∃ place, t.locate (joinPath directory file) = .ok place ∧ ¬ place.isRoot ∧
      t.node? place ≠ some .directory ∧ after = t.set place (.file text) := by
  rw [t.write_joinPath directory name] at written
  cases found : t.locate (joinPath directory file) with
  | error cause => simp [found] at written
  | ok place =>
      obtain ⟨upper, _, below⟩ := locate_joinPath name found
      by_cases inside : t.node? place = some .directory
      · simp [found, inside] at written
      · refine ⟨place, rfl, below ▸ not_isRoot_file name upper, inside, ?_⟩
        simpa [found, inside] using written.symm

theorem read_of_locate {t : FileTable} {path text : String} {place : Place}
    (found : t.locate path = .ok place) (stands : t.node? place = some (.file text)) :
    t.read path = .ok text := by
  simp [read, found, stands]

/-- A file that is written holds what was written. -/
theorem read_write_same {t after : FileTable} {directory file text : String}
    (name : IsFileName file) (written : t.write (joinPath directory file) text = .ok after) :
    after.read (joinPath directory file) = .ok text := by
  obtain ⟨place, found, below, free, rfl⟩ := write_cases name written
  exact read_of_locate ((keepsDirectories_set _ free).locate found) (t.node?_set_self _ below)

/-- A file keeps its text while another of its directory is written. -/
theorem read_write_other {t after : FileTable} {directory file other text kept : String}
    (name : IsFileName file) (otherName : IsFileName other) (differs : other ≠ file)
    (written : t.write (joinPath directory file) text = .ok after)
    (holds : t.read (joinPath directory other) = .ok kept) :
    after.read (joinPath directory other) = .ok kept := by
  obtain ⟨place, found, _, free, rfl⟩ := write_cases name written
  unfold read at holds
  cases located : t.locate (joinPath directory other) with
  | error cause => simp [located] at holds
  | ok beside =>
      obtain ⟨upper, walked, below⟩ := locate_joinPath name found
      obtain ⟨upper', walked', below'⟩ := locate_joinPath otherName located
      -- Both paths go through the one directory, and only their last steps differ.
      have same : upper' = upper := Except.ok.inj (walked'.symm.trans walked)
      have apart : beside ≠ place := by
        rw [below, below', same]
        simpa using differs
      have stands : t.node? beside = some (.file kept) := by
        simp only [located] at holds
        split at holds
        · rename_i content
          rw [content, Except.ok.inj holds]
        all_goals contradiction
      exact read_of_locate ((keepsDirectories_set _ free).locate located)
        ((t.node?_set_other _ apart).trans stands)

end FileTable

end TextAdventure
