import TextAdventure.Proofs.FilePaths

/-!
# Directories on the way

A path is followed from directory to directory, so whoever gets further has passed a directory at
each step.  Making a directory goes the same ways, those to the directories above it included.  If
it fails, then one of these directories is missing; and whoever tries once more changes nothing.
-/

set_option autoImplicit false

namespace TextAdventure

theorem Place.follow_dot (place : Place) : place.follow "." = place := if_pos rfl

namespace Route

/-- A single dot in a path leads nowhere else. -/
theorem foldl_follow_filter (steps : List String) (place : Place) :
    (steps.filter (· != ".")).foldl Place.follow place = steps.foldl Place.follow place := by
  induction steps generalizing place with
  | nil => rfl
  | cons step rest ih =>
      by_cases stays : step = "."
      · subst stays
        simp [ih, Place.follow_dot]
      · have goes : (step != ".") = true := by simpa using stays
        simp [goes, ih]

theorem mem_places {r : Route} {place : Place} :
    place ∈ r.places ↔
      ∃ first, first <+: r.steps ∧ first ≠ [] ∧ first.foldl Place.follow r.start = place := by
  simp only [places, List.mem_map, List.mem_range'_1]
  constructor
  · rintro ⟨count, ⟨positive, short⟩, rfl⟩
    refine ⟨r.steps.take count, List.take_prefix count r.steps, ?_, rfl⟩
    intro empty
    rcases List.take_eq_nil_iff.mp empty with none | none
    · omega
    · simp only [none, List.length_nil] at short
      omega
  · rintro ⟨first, ⟨second, split⟩, nonempty, rfl⟩
    have positive : 0 < first.length := List.length_pos_iff.mpr nonempty
    refine ⟨first.length, ⟨positive, ?_⟩, ?_⟩
    · rw [← split, List.length_append]
      omega
    · rw [← split, List.take_left]

/-- The routes to the directories above spell beginnings of the path, less the single dots. -/
theorem eq_of_mem_above {r upper : Route} (member : upper ∈ r.above) :
    ∃ first, first <+: r.steps ∧ upper = ⟨r.start, first.filter (· != "."), false⟩ := by
  simp only [above, List.mem_map, List.mem_reverse] at member
  obtain ⟨count, _, rfl⟩ := member
  obtain ⟨first, begins, same⟩ := List.prefix_filter_iff.mp
    (List.take_prefix count (r.steps.filter (· != ".")))
  exact ⟨first, begins, by rw [same]⟩

/-- A directory whose path spells no route has no files. -/
theorem exists_ofPath_of_joinPath {directory file : String} (nonempty : directory ≠ "") {r : Route}
    (spelled : ofPath (joinPath directory file) = .ok r) : ∃ r, ofPath directory = .ok r := by
  obtain ⟨rest, joined⟩ : ∃ rest, joinPath directory file = directory ++ rest := by
    unfold joinPath
    split
    · exact ⟨file, rfl⟩
    · exact ⟨"/" ++ file, String.append_assoc⟩
  rw [joined] at spelled
  unfold ofPath at spelled ⊢
  split at spelled
  · contradiction
  · rename_i clean
    split at spelled
    · contradiction
    · split at spelled
      · contradiction
      · rename_i short
        have clean' : ¬ directory.toList.contains '\x00' := by
          intro dirty
          simp only [List.contains_iff_mem] at dirty clean
          exact clean (by simp [dirty])
        have short' : ¬ pathLimit < directory.utf8ByteSize := by
          rw [String.utf8ByteSize_append] at short
          omega
        rw [if_neg clean', if_neg (by simpa using nonempty), if_neg short']
        exact ⟨_, rfl⟩

end Route

namespace FileTable

/-! ## Following a way -/

theorem walk_append_eq_ok {t : FileTable} {place last : Place} {first second : List String} :
    t.walk place (first ++ second) = .ok last ↔
      ∃ middle, t.walk place first = .ok middle ∧ t.walk middle second = .ok last := by
  rw [walk_append]
  cases t.walk place first with
  | error cause => simp
  | ok middle => simp

/-- A way that goes on passes a directory. -/
theorem directory_of_walk_append {t : FileTable} {place last : Place} {first second : List String}
    (walked : t.walk place (first ++ second) = .ok last) (more : second ≠ []) :
    ∃ middle, t.walk place first = .ok middle ∧ t.node? middle = some .directory := by
  obtain ⟨middle, reached, further⟩ := walk_append_eq_ok.mp walked
  cases second with
  | nil => exact absurd rfl more
  | cons step rest => exact ⟨middle, reached, (walk_cons_eq_ok.mp further).1⟩

/-- A way leads where its path says. -/
theorem eq_foldl_of_walk {t : FileTable} {place last : Place} {steps : List String}
    (walked : t.walk place steps = .ok last) : last = steps.foldl Place.follow place := by
  induction steps generalizing place with
  | nil => exact (Except.ok.inj walked).symm
  | cons step rest ih => exact ih (walk_cons_eq_ok.mp walked).2.2

theorem walk_filter {t : FileTable} {place last : Place} {steps : List String}
    (walked : t.walk place steps = .ok last) :
    t.walk place (steps.filter (· != ".")) = .ok last := by
  induction steps generalizing place with
  | nil => exact walked
  | cons step rest ih =>
      obtain ⟨inside, short, further⟩ := walk_cons_eq_ok.mp walked
      by_cases stays : step = "."
      · subst stays
        rw [Place.follow_dot] at further
        exact ih further
      · have goes : (step != ".") = true := by simpa using stays
        have kept : (step :: rest).filter (· != ".") = step :: rest.filter (· != ".") :=
          List.filter_cons_of_pos goes
        rw [kept]
        exact walk_cons_eq_ok.mpr ⟨inside, short, ih further⟩

theorem leadsToDirectory_of_walk {t : FileTable} {r : Route} {place : Place}
    (walked : t.walk r.start r.steps = .ok place) (inside : t.node? place = some .directory) :
    t.leadsToDirectory r = true := by
  have full : t.walk r.start r.fullSteps = .ok place := by
    unfold Route.fullSteps
    split
    · refine walk_append_eq_ok.mpr ⟨place, walked, walk_cons_eq_ok.mpr ⟨inside, by decide, ?_⟩⟩
      rw [Place.follow_dot]
      rfl
    · exact walked
  simp [leadsToDirectory, full, inside]

theorem walk_of_leadsToDirectory {t : FileTable} {r : Route} (leads : t.leadsToDirectory r = true) :
    ∃ place, t.walk r.start r.steps = .ok place ∧ t.node? place = some .directory := by
  unfold leadsToDirectory at leads
  cases full : t.walk r.start r.fullSteps with
  | error cause => simp [full] at leads
  | ok place =>
      rw [full] at leads
      refine ⟨place, ?_, of_decide_eq_true leads⟩
      unfold Route.fullSteps at full
      split at full
      · obtain ⟨middle, walked, last⟩ := walk_append_eq_ok.mp full
        rw [walked, ← (walk_cons_eq_ok.mp last).2.2, Place.follow_dot]
        rfl
      · exact full

theorem KeepsDirectories.leadsToDirectory {t after : FileTable} (kept : t.KeepsDirectories after)
    {r : Route} (leads : t.leadsToDirectory r = true) : after.leadsToDirectory r = true := by
  obtain ⟨place, walked, inside⟩ := walk_of_leadsToDirectory leads
  exact leadsToDirectory_of_walk (kept.walk walked) (kept place inside)

/-- Whether whoever follows one route passes the directory that another one leads to. -/
def Passes (lower upper : Route) : Prop :=
  ∀ (t : FileTable) (place : Place), t.walk lower.start lower.steps = .ok place →
    t.leadsToDirectory upper = true

theorem leadsToDirectory_take {start : Place} {steps : List String} {count : Nat}
    (shorter : count < steps.length) {t : FileTable} {place : Place}
    (walked : t.walk start steps = .ok place) :
    t.leadsToDirectory ⟨start, steps.take count, false⟩ = true := by
  rw [← List.take_append_drop count steps] at walked
  have more : steps.drop count ≠ [] := by
    rw [ne_eq, List.drop_eq_nil_iff]
    omega
  obtain ⟨middle, reached, inside⟩ := directory_of_walk_append walked more
  exact leadsToDirectory_of_walk reached inside

/-- Each route to a directory passes those above it. -/
theorem pairwise_passes (r : Route) : (r :: r.above).Pairwise Passes := by
  refine List.pairwise_cons.mpr ⟨?_, ?_⟩
  · intro upper listed t place walked
    simp only [Route.above, List.mem_map, List.mem_reverse, List.mem_range'_1] at listed
    obtain ⟨count, ⟨positive, short⟩, rfl⟩ := listed
    exact leadsToDirectory_take (by omega) (walk_filter walked)
  · have longer : (List.range' 1 ((r.steps.filter (· != ".")).length - 1)).Pairwise (· < ·) :=
      List.pairwise_lt_range'
    refine List.pairwise_map.mpr (List.pairwise_reverse.mpr (longer.imp_of_mem ?_))
    intro fewer more _ listed less t place walked
    have short := (List.mem_range'_1.mp listed).2
    have first : (List.take more (r.steps.filter (· != "."))).take fewer =
        (r.steps.filter (· != ".")).take fewer := by
      rw [List.take_take, Nat.min_eq_left (Nat.le_of_lt less)]
    rw [← first]
    exact leadsToDirectory_take (by simp only [List.length_take]; omega) walked

/-! ## Directories that cannot be made -/

theorem ensureDirectory_error {t after : FileTable} {r : Route} {cause : FileError}
    (failed : t.ensureDirectory r = (after, some cause)) : after.leadsToDirectory r = false := by
  unfold ensureDirectory at failed
  split at failed
  · simp at failed
  · split at failed
    · simp at failed
    · rename_i elsewhere
      obtain ⟨rfl, _⟩ := Prod.mk.inj failed
      simpa using elsewhere

theorem makeChain_error {routes : List Route} {t after : FileTable} {cause : FileError}
    (failed : t.makeChain routes = (after, some cause)) :
    ∃ r ∈ routes, after.leadsToDirectory r = false := by
  induction routes generalizing t after cause with
  | nil => simp [makeChain] at failed
  | cons r above ih =>
      rw [makeChain] at failed
      split at failed
      · split at failed
        · exact ⟨r, List.mem_cons_self, ensureDirectory_error failed⟩
        · obtain ⟨upper, listed, missing⟩ := ih failed
          exact ⟨upper, List.mem_cons_of_mem r listed, missing⟩
      · exact ⟨r, List.mem_cons_self, ensureDirectory_error failed⟩

/-- In a directory that could not be made there are no files. -/
theorem not_locate_of_makeDirectories_error {t after : FileTable} {directory : String}
    {cause : FileError} (failed : t.makeDirectories directory = (after, some cause))
    {file : String} (name : IsFileName file) (place : Place) :
    after.locate (joinPath directory file) ≠ .ok place := by
  intro found
  unfold makeDirectories at failed
  split at failed
  · simp at failed
  · rename_i nonempty
    obtain ⟨upper, walked, inside⟩ :=
      directory_of_walk_append (walk_of_locate name found) (List.cons_ne_nil file [])
    cases joined : Route.ofPath (joinPath directory file) with
    | error _ => simp [locate, joined, bind, Except.bind] at found
    | ok whole =>
        obtain ⟨r, spelled⟩ := Route.exists_ofPath_of_joinPath (by simpa using nonempty) joined
        simp only [spelled] at failed
        -- The way to the file passes the directory, and so all that had to be made.
        have passes : after.walk r.start r.steps = .ok upper := by
          rw [Route.ofPath_eq spelled]
          exact walked
        obtain ⟨missed, listed, missing⟩ := makeChain_error failed
        have leads : after.leadsToDirectory missed = true := by
          rcases List.mem_cons.mp listed with rfl | above
          · exact leadsToDirectory_of_walk passes inside
          · exact (List.pairwise_cons.mp (pairwise_passes r)).1 missed above after upper passes
        rw [leads] at missing
        contradiction

/-! ## Directories that are made again -/

theorem ensureDirectory_of_leadsToDirectory {t : FileTable} {r : Route}
    (leads : t.leadsToDirectory r = true) : t.ensureDirectory r = (t, none) := by
  obtain ⟨place, walked, inside⟩ := walk_of_leadsToDirectory leads
  simp [ensureDirectory, makeDirectory, walked, inside, leads]

theorem makeDirectory_ok {t after : FileTable} {r : Route} (made : t.makeDirectory r = .ok after) :
    ∃ place, t.walk r.start r.steps = .ok place ∧ t.node? place = none ∧
      after = t.set place .directory := by
  unfold makeDirectory at made
  cases walked : t.walk r.start r.steps with
  | error cause => simp [walked] at made
  | ok place =>
      cases stands : t.node? place with
      | some node => simp [walked, stands] at made
      | none =>
          simp only [walked, stands, Except.ok.injEq] at made
          exact ⟨place, rfl, stands, made.symm⟩

theorem not_isRoot_of_missing {t : FileTable} {place : Place} (missing : t.node? place = none) :
    ¬ place.isRoot := by
  intro root
  simp [node?, root] at missing

theorem leadsToDirectory_of_makeDirectory {t after : FileTable} {r : Route}
    (made : t.makeDirectory r = .ok after) : after.leadsToDirectory r = true := by
  obtain ⟨place, walked, missing, rfl⟩ := makeDirectory_ok made
  have free : t.node? place ≠ some .directory := by simp [missing]
  exact leadsToDirectory_of_walk ((keepsDirectories_set _ free).walk walked)
    (t.node?_set_self _ (not_isRoot_of_missing missing))

theorem ensureDirectory_again (t : FileTable) (r : Route) :
    (t.ensureDirectory r).1.ensureDirectory r = t.ensureDirectory r := by
  cases made : t.makeDirectory r with
  | error cause =>
      have kept : (t.ensureDirectory r).1 = t := by simp [ensureDirectory, made]
      rw [kept]
  | ok after =>
      have done : t.ensureDirectory r = (after, none) := by simp [ensureDirectory, made]
      rw [done]
      exact ensureDirectory_of_leadsToDirectory (leadsToDirectory_of_makeDirectory made)

/-- A directory that was not made leaves the table as it is. -/
theorem ensureDirectory_fst_of_error {t : FileTable} {r : Route}
    (failed : (t.ensureDirectory r).2 ≠ none) : (t.ensureDirectory r).1 = t := by
  cases made : t.makeDirectory r with
  | error cause => simp [ensureDirectory, made]
  | ok after => simp [ensureDirectory, made] at failed

theorem ensureDirectory_fst_of_passes {t : FileTable} {r upper : Route} (passes : Passes r upper)
    (missing : t.leadsToDirectory upper = false) : (t.ensureDirectory r).1 = t := by
  cases made : t.makeDirectory r with
  | error cause => simp [ensureDirectory, made]
  | ok after =>
      obtain ⟨place, walked, _⟩ := makeDirectory_ok made
      rw [passes t place walked] at missing
      contradiction

theorem makeChain_cons (t : FileTable) (r : Route) (above : List Route) :
    t.makeChain (r :: above) =
      if (t.ensureDirectory r).2 = some .notFound then
        if ((t.ensureDirectory r).1.makeChain above).2 = none then
          ((t.ensureDirectory r).1.makeChain above).1.ensureDirectory r
        else (t.ensureDirectory r).1.makeChain above
      else t.ensureDirectory r := by
  rw [makeChain]
  split
  · rename_i tried attempt
    simp only [attempt, if_true]
    split
    · rename_i made complete
      simp [complete]
    · rename_i failed incomplete
      rw [if_neg]
      intro complete
      exact incomplete _ (Prod.ext rfl complete)
  · rename_i other
    rw [if_neg]
    intro missing
    exact other _ (Prod.ext rfl missing)

theorem makeChain_fst_of_still {t : FileTable} {r : Route} {above : List Route}
    (here : (t.ensureDirectory r).1 = t) (higher : (t.makeChain above).1 = t) :
    (t.makeChain (r :: above)).1 = t := by
  rw [makeChain_cons, here]
  split
  · split
    · rw [higher, here]
    · exact higher
  · exact here

/-- Whoever tries to make a chain of directories once more changes nothing. -/
theorem makeChain_again {routes : List Route} (chain : routes.Pairwise Passes) (t : FileTable) :
    ((t.makeChain routes).1.makeChain routes).1 = (t.makeChain routes).1 := by
  induction routes generalizing t with
  | nil => rfl
  | cons r above ih =>
      obtain ⟨passes, rest⟩ := List.pairwise_cons.mp chain
      rw [t.makeChain_cons r above]
      split
      case isTrue missing =>
        rw [ensureDirectory_fst_of_error (by rw [missing]; simp)]
        split
        case isTrue complete =>
          have here := ensureDirectory_again (t.makeChain above).1 r
          by_cases made : ((t.makeChain above).1.ensureDirectory r).2 = none
          · rw [makeChain_cons, here, made, if_neg (by simp)]
          · rw [ensureDirectory_fst_of_error made] at here ⊢
            exact makeChain_fst_of_still (ensureDirectory_fst_of_error made) (ih rest t)
        case isFalse incomplete =>
          -- A directory above is missing still, so this one cannot be made either.
          obtain ⟨cause, failed⟩ := Option.ne_none_iff_exists'.mp incomplete
          obtain ⟨upper, listed, gone⟩ := makeChain_error (Prod.ext rfl failed)
          exact makeChain_fst_of_still (ensureDirectory_fst_of_passes (passes upper listed) gone)
            (ih rest t)
      case isFalse done =>
        rw [makeChain_cons, ensureDirectory_again, if_neg done]

theorem makeDirectories_again (t : FileTable) (path : String) :
    ((t.makeDirectories path).1.makeDirectories path).1 = (t.makeDirectories path).1 := by
  unfold makeDirectories
  split
  · rfl
  · cases Route.ofPath path with
    | error cause => rfl
    | ok r => exact makeChain_again (pairwise_passes r) t

theorem leadsToDirectory_of_ensureDirectory {t : FileTable} {r : Route}
    (done : (t.ensureDirectory r).2 = none) :
    (t.ensureDirectory r).1.leadsToDirectory r = true := by
  cases made : t.makeDirectory r with
  | ok after =>
      have same : t.ensureDirectory r = (after, none) := by simp [ensureDirectory, made]
      rw [same]
      exact leadsToDirectory_of_makeDirectory made
  | error cause =>
      cases leads : t.leadsToDirectory r with
      | true => rw [ensureDirectory_of_leadsToDirectory leads, leads]
      | false => simp [ensureDirectory, made, leads] at done

theorem leadsToDirectory_of_makeChain {t : FileTable} {r : Route} {above : List Route}
    (done : (t.makeChain (r :: above)).2 = none) :
    (t.makeChain (r :: above)).1.leadsToDirectory r = true := by
  rw [makeChain_cons] at done ⊢
  by_cases missing : (t.ensureDirectory r).2 = some .notFound
  · rw [if_pos missing] at done ⊢
    by_cases complete : ((t.ensureDirectory r).1.makeChain above).2 = none
    · rw [if_pos complete] at done ⊢
      exact leadsToDirectory_of_ensureDirectory done
    · rw [if_neg complete] at done
      exact absurd done complete
  · rw [if_neg missing] at done ⊢
    exact leadsToDirectory_of_ensureDirectory done

/-- A directory that was made need not be made again while all directories stay. -/
theorem makeDirectories_of_keepsDirectories {t after : FileTable} {path : String}
    (done : (t.makeDirectories path).2 = none)
    (kept : (t.makeDirectories path).1.KeepsDirectories after) :
    after.makeDirectories path = (after, none) := by
  unfold makeDirectories at done kept ⊢
  split
  · rfl
  · rename_i nonempty
    rw [if_neg nonempty] at done kept
    cases spelled : Route.ofPath path with
    | error cause => simp [spelled] at done
    | ok r =>
        simp only [spelled] at done kept ⊢
        have leads := kept.leadsToDirectory (leadsToDirectory_of_makeChain done)
        rw [makeChain_cons, ensureDirectory_of_leadsToDirectory leads, if_neg (by simp)]

end FileTable

end TextAdventure
