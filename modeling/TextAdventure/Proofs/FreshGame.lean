import TextAdventure.Proofs.SavingAgain

/-!
# The fresh game

A new game is read from the data directory alone, and nothing but a save changes files: those of a
world in the save directory, with the directories that are missing on the way.  So where the two
directories lie at different places, saves matter to a new game in one case only: its files were
not found, since something was missing that is on the way to both, and the save put it there.  Only
the first save can do that, and none if a game could be loaded from either directory before.
-/

set_option autoImplicit false

namespace TextAdventure

namespace Directories

/-- Whether the two directories lie at different places. -/
def Apart (d : Directories) : Prop :=
  (Route.toFolder d.data).place ≠ (Route.toFolder d.save).place

instance (d : Directories) : Decidable d.Apart := inferInstanceAs (Decidable (_ ≠ _))

/-- Whether something stands on the ways to the files of both directories that was missing. -/
def Paved (d : Directories) (t after : FileTable) : Prop :=
  ∃ place ∈ Route.worldPlaces d.data, place ∈ Route.worldPlaces d.save ∧
    t.node? place = none ∧ after.node? place ≠ none

end Directories

/-- Whether a result is the same as before, or was an error that is excused. -/
def SameUnless {ε α : Type} (excused : ε → Prop) (before later : Except ε α) : Prop :=
  later = before ∨ ∃ error, before = .error error ∧ excused error

theorem SameUnless.bind {ε α β : Type} {excused : ε → Prop} {before later : Except ε α}
    {f g : α → Except ε β} (first : SameUnless excused before later)
    (rest : ∀ a, SameUnless excused (f a) (g a)) :
    SameUnless excused (before >>= f) (later >>= g) := by
  rcases first with rfl | ⟨error, rfl, excuse⟩
  · cases later with
    | error error => exact Or.inl rfl
    | ok a => exact rest a
  · exact Or.inr ⟨error, rfl, excuse⟩

/-! ## Reading after saves -/

namespace FileTable

section

variable {directory : String} {place : Place} {before later : Option Node}

theorem SavesAt.passing_or (saved : SavesAt directory place before later) :
    passing later = passing before ∨ before = none ∧ later ≠ none := by
  cases saved with
  | kept _ => exact Or.inl rfl
  | made way => exact Or.inr ⟨rfl, Option.some_ne_none _⟩
  | written _ text listed free =>
      cases before with
      | none => exact Or.inr ⟨rfl, Option.some_ne_none _⟩
      | some node =>
          cases node with
          | directory => exact absurd rfl free
          | file _ => exact Or.inl rfl
          | garbledFile => exact Or.inl rfl

theorem SavesAt.eq_or (saved : SavesAt directory place before later)
    (unlisted : place ∉ Route.filePlaces directory) :
    later = before ∨ before = none ∧ later ≠ none := by
  cases saved with
  | kept _ => exact Or.inl rfl
  | made way => exact Or.inr ⟨rfl, Option.some_ne_none _⟩
  | written _ _ listed _ => exact absurd listed unlisted

/-- Whatever a save puts where nothing stood is on the way to the saved files. -/
theorem SavesAt.mem_worldPlaces (saved : SavesAt directory place none later)
    (there : later ≠ none) : place ∈ Route.worldPlaces directory := by
  cases saved with
  | kept _ => exact absurd rfl there
  | made way => exact List.mem_append_left _ way
  | written _ _ listed _ => exact List.mem_append_right _ listed

end

/-- A way goes as before, or stopped where nothing stood and something stands now. -/
theorem SavesTo.walk_or {directory : String} {t after : FileTable}
    (saved : SavesTo directory t after) (place : Place) (steps : List String) :
    after.walk place steps = t.walk place steps ∨
      t.walk place steps = .error .notFound ∧
        ∃ first, first <+: steps ∧ first ≠ steps ∧
          t.node? (first.foldl Place.follow place) = none ∧
          after.node? (first.foldl Place.follow place) ≠ none := by
  induction steps generalizing place with
  | nil => exact Or.inl rfl
  | cons step rest ih =>
      rcases (saved place).passing_or with same | ⟨missing, there⟩
      · rw [walk_cons, walk_cons, same]
        cases passing (t.node? place) with
        | error cause => exact Or.inl rfl
        | ok _ =>
            by_cases long : Route.nameLimit < step.utf8ByteSize
            · exact Or.inl (by simp only [if_pos long])
            · simp only [if_neg long]
              rcases ih (place.follow step) with further | ⟨failed, first, begins, shorter, stood⟩
              · exact Or.inl further
              · have longer : step :: first <+: step :: rest :=
                  List.cons_prefix_cons.mpr ⟨rfl, begins⟩
                refine Or.inr ⟨failed, step :: first, longer, ?_, stood⟩
                exact fun whole => shorter (List.cons.inj whole).2
      · refine Or.inr ⟨by rw [walk_cons, missing]; rfl, [], List.nil_prefix, ?_, missing, there⟩
        exact (List.cons_ne_nil step rest).symm

variable {d : Directories} {t after : FileTable}

theorem SavesTo.paved (saved : SavesTo d.save t after) {place : Place}
    (way : place ∈ Route.worldPlaces d.data) (missing : t.node? place = none)
    (there : after.node? place ≠ none) : d.Paved t after :=
  ⟨place, way, (missing ▸ saved place).mem_worldPlaces there, missing, there⟩

theorem SavesTo.locate (saved : SavesTo d.save t after) {file : String} (name : IsFileName file) :
    SameUnless (fun cause => cause = .notFound ∧ d.Paved t after)
      (t.locate (joinPath d.data file)) (after.locate (joinPath d.data file)) := by
  cases spelled : Route.ofPath (joinPath d.data file) with
  | error cause => exact Or.inl (by simp [FileTable.locate, spelled, bind, Except.bind])
  | ok r =>
      rw [t.locate_eq_walk name spelled, after.locate_eq_walk name spelled]
      rcases saved.walk_or (Route.startOf d.data) (Route.stepsOf d.data ++ [file]) with
        same | ⟨failed, first, begins, shorter, missing, there⟩
      · exact Or.inl same
      · -- The way starts at a root, which is there, so it stopped on the way to the directory.
        have nonempty : first ≠ [] := by
          rintro rfl
          simp [node?, Route.isRoot_startOf] at missing
        have begins := (List.prefix_concat_iff.mp begins).resolve_left shorter
        have way : first.foldl Place.follow (Route.startOf d.data) ∈ Route.worldPlaces d.data :=
          List.mem_append_left _ (Route.mem_wayTo begins nonempty)
        exact Or.inr ⟨.notFound, failed, rfl, saved.paved way missing there⟩

theorem notMem_filePlaces_of_apart (apart : d.Apart) {file : String} (name : IsFileName file)
    {place : Place} (found : t.locate (joinPath d.data file) = .ok place) :
    place ∉ Route.filePlaces d.save := by
  intro both
  obtain ⟨other, _, same⟩ := List.mem_map.mp both
  rw [eq_of_locate_joinPath name found] at same
  exact apart (List.append_inj' same rfl).1.symm

/-- The files of the data directory are read as before, or were not found and the way is paved. -/
theorem SavesTo.read (saved : SavesTo d.save t after) (apart : d.Apart) {file : String}
    (listed : file ∈ worldFiles) :
    SameUnless (fun cause => cause = .notFound ∧ d.Paved t after)
      (t.read (joinPath d.data file)) (after.read (joinPath d.data file)) := by
  have name := isFileName_worldFiles listed
  rcases saved.locate name with same | ⟨_, failed, rfl, paved⟩
  · cases found : t.locate (joinPath d.data file) with
    | error cause => exact Or.inl (by simp [FileTable.read, same, found])
    | ok place =>
        rcases (saved place).eq_or (notMem_filePlaces_of_apart apart name found) with
          kept | ⟨missing, there⟩
        · exact Or.inl (by simp [FileTable.read, same, found, kept])
        · have way : place ∈ Route.worldPlaces d.data :=
            List.mem_append_right _ (mem_filePlaces_of_locate listed found)
          refine Or.inr ⟨.notFound, ?_, rfl, saved.paved way missing there⟩
          simp [FileTable.read, found, missing]
  · exact Or.inr ⟨.notFound, by simp [FileTable.read, failed], rfl, paved⟩

end FileTable

/-- The files of a data directory that were not found, since the way to them was not paved yet. -/
def Directories.Missed (d : Directories) (t after : FileTable) (error : StoreError) : Prop :=
  (∃ file ∈ worldFiles, error = .read (joinPath d.data file) .notFound) ∧ d.Paved t after

theorem readValue_of_savesTo {d : Directories} {t after : FileTable} (apart : d.Apart)
    (saved : FileTable.SavesTo d.save t after) {α : Type} (ofJson? : Json → Option α)
    {file : String} (listed : file ∈ worldFiles) :
    SameUnless (d.Missed t after) (readValue t ofJson? (joinPath d.data file))
      (readValue after ofJson? (joinPath d.data file)) := by
  rcases saved.read apart listed with same | ⟨_, failed, rfl, paved⟩
  · exact Or.inl (by simp only [readValue, same])
  · refine Or.inr ⟨.read (joinPath d.data file) .notFound, ?_, ⟨file, listed, rfl⟩, paved⟩
    simp only [readValue, failed]

theorem World.load_of_savesTo {d : Directories} {t after : FileTable} (apart : d.Apart)
    (saved : FileTable.SavesTo d.save t after) :
    SameUnless (d.Missed t after) (World.load t d.data) (World.load after d.data) := by
  have reads {α : Type} (ofJson? : Json → Option α) {file : String} (listed : file ∈ worldFiles) :=
    readValue_of_savesTo apart saved ofJson? listed
  unfold World.load
  refine (reads itemsOfJson? (by decide)).bind fun items => ?_
  refine (reads roomsOfJson? (by decide)).bind fun rooms => ?_
  refine (reads Player.ofJson? (by decide)).bind fun player => ?_
  refine (reads objectivesOfJson? (by decide)).bind fun objectives => ?_
  exact Or.inl rfl

namespace FileTable

/-- The way to a file passes all places on the way to its directory. -/
theorem directory_of_mem_wayTo {t : FileTable} {directory file : String} (name : IsFileName file)
    {place : Place} (found : t.locate (joinPath directory file) = .ok place) :
    ∀ upper ∈ Route.wayTo directory, t.node? upper = some .directory := by
  intro upper passed
  obtain ⟨first, ⟨second, split⟩, _, rfl⟩ := Route.mem_places.mp passed
  have steps : Route.stepsOf directory = first ++ second := split.symm
  have walked := walk_of_locate name found
  rw [steps, List.append_assoc] at walked
  obtain ⟨middle, reached, inside⟩ := directory_of_walk_append walked (by simp)
  rwa [eq_foldl_of_walk reached] at inside

/-- All that is on the way to a saved world is there. -/
theorem stands_of_hasSavedWorld {t : FileTable} {directory : String}
    (saved : hasSavedWorld t directory = true) :
    ∀ place ∈ Route.worldPlaces directory, t.node? place ≠ none := by
  have located : ∀ file ∈ worldFiles, ∃ place,
      t.locate (joinPath directory file) = .ok place ∧ t.node? place ≠ none := by
    intro file listed
    have isFile := hasSavedWorld_iff.mp saved file listed
    unfold FileTable.isFile at isFile
    split at isFile
    · contradiction
    · rename_i place found
      refine ⟨place, found, ?_⟩
      intro missing
      simp [missing] at isFile
  intro place shared
  rcases List.mem_append.mp shared with way | listed
  · have listed : playerFile ∈ worldFiles := List.mem_cons_self
    obtain ⟨_, found, _⟩ := located playerFile listed
    rw [directory_of_mem_wayTo (isFileName_worldFiles listed) found place way]
    exact Option.some_ne_none _
  · obtain ⟨file, member, rfl⟩ := List.mem_map.mp listed
    obtain ⟨place, found, stands⟩ := located file member
    rwa [eq_of_locate_joinPath (isFileName_worldFiles member) found] at stands

end FileTable

/-- Where a game can be loaded, no way is left to pave. -/
theorem Directories.not_paved_of_load {d : Directories} {t : FileTable} {mode : LoadMode}
    {w : World} (loaded : World.load t (d.world mode) = .ok w) (after : FileTable) :
    ¬ d.Paved t after := by
  rintro ⟨place, inData, inSave, missing, _⟩
  have stands := FileTable.stands_of_hasSavedWorld (hasSavedWorld_of_load loaded)
  cases mode with
  | new => exact stands place inData missing
  | resume => exact stands place inSave missing

theorem Directories.not_paved_of_sameShape {d : Directories} {t after : FileTable}
    (same : FileTable.SameShape d.save t after) : ¬ d.Paved t after := by
  rintro ⟨place, _, _, missing, there⟩
  exact there ((same place).eq_none_iff.mpr missing)

namespace Game

/-! ## Runs -/

/-- Whether the files of a game are those of another one, or what a save made of them. -/
def SavesOnce (g h : Game) : Prop :=
  h.directories = g.directories ∧
    (h.files = g.files ∨ ∃ w, h.files = (saveWorld g.files g.directories.save w).1)

theorem SameFiles.savesOnce {g h : Game} (same : SameFiles g h) : SavesOnce g h :=
  ⟨same.2, Or.inl same.1⟩

theorem SavesOnce.then {g h k : Game} (saved : SavesOnce g h) (same : SameFiles h k) :
    SavesOnce g k :=
  ⟨same.2.trans saved.1, same.1 ▸ saved.2⟩

theorem files_save (g : Game) :
    g.save.1.directories = g.directories ∧
      g.save.1.files = (saveWorld g.files g.directories.save g.world).1 := by
  rcases g.save_cases with ⟨files, written, saved⟩ | ⟨files, error, written, failed⟩
  · rw [saved, written]
    exact ⟨rfl, rfl⟩
  · rw [failed, written]
    exact ⟨rfl, rfl⟩

theorem savesOnce_save (g : Game) : SavesOnce g g.save.1 :=
  ⟨g.files_save.1, Or.inr ⟨g.world, g.files_save.2⟩⟩

theorem Effect.savesOnce {g : Game} {intent : Intent} {outcome : Outcome Game}
    (effect : g.Effect intent outcome) : SavesOnce g outcome.state := by
  by_cases asked : intent.request? = some .save
  · cases effect with
    | saved _ =>
        rw [saveCommand_state]
        exact g.savesOnce_save
    | loaded mode other => simp [asked] at other
    | hinted action => simp [Intent.request?, action] at asked
    | _ => exact ⟨rfl, Or.inl rfl⟩
  · exact (effect.sameFiles asked).savesOnce

theorem savesOnce_line (g : Game) (line : String) (fromPlayer : Bool) :
    SavesOnce g (g.after (.line line fromPlayer)) := by
  simp only [after]
  rcases g.respond_cases line fromPlayer with ⟨_, same⟩ | ⟨outcome, effect, same⟩
  · rw [same]
    exact ⟨rfl, Or.inl rfl⟩
  · rw [same]
    exact effect.savesOnce

theorem savesOnce_after (g : Game) (event : Event) : SavesOnce g (g.after event) := by
  cases event with
  | line line fromPlayer => exact g.savesOnce_line line fromPlayer
  | turn line =>
      rw [after_turn]
      refine (g.savesOnce_line line true).then ?_
      rcases (g.after (.line line true)).rollCredits_cases with still | rolled
      · rw [still]
        exact SameFiles.refl _
      · rw [rolled]
        exact sameFiles_withWorld _ _
  | save => exact g.savesOnce_save
  | load mode => exact (g.sameFiles_load mode).savesOnce
  | closing =>
      rcases g.after_closing with ⟨_, same⟩ | ⟨dirty, dialogue, _, same⟩
      · rw [same]
        exact (SameFiles.refl g).savesOnce
      · rw [same]
        split
        · exact savesOnce_save { g with dialogue := dialogue }
        · exact ⟨rfl, Or.inl rfl⟩

/-- What a run makes of the files of a game: nothing, or what one save makes of them up to texts. -/
structure AtMostSaved (g s : Game) : Prop where
  directories : s.directories = g.directories
  files : s.files = g.files ∨ FileTable.SameShape g.directories.save g.save.1.files s.files

theorem AtMostSaved.then {g s after : Game} (kept : AtMostSaved g s) (saved : SavesOnce s after) :
    AtMostSaved g after := by
  obtain ⟨directories, files⟩ := saved
  refine ⟨directories.trans kept.directories, ?_⟩
  rcases files with same | ⟨w, files⟩
  · rw [same]
    exact kept.files
  · rw [files, kept.directories]
    right
    rcases kept.files with same | shape
    · -- The first save: of whichever world, it leaves the shape that a save at the start leaves.
      rw [same, g.files_save.2]
      exact (FileTable.SameShape.refl _ g.files).saveWorld g.world w
    · rw [g.files_save.2] at shape ⊢
      exact (FileTable.sameShape_saveWorld _ _ g.world w).trans (shape.saveWorld w w)

theorem atMostSaved_states (g : Game) (events : List Event) :
    ∀ s ∈ g.states events, AtMostSaved g s :=
  invariant_states (P := AtMostSaved g) events ⟨rfl, Or.inl rfl⟩
    fun s event _ kept => kept.then (s.savesOnce_after event)

theorem AtMostSaved.savesTo {g s : Game} (kept : AtMostSaved g s) :
    FileTable.SavesTo g.directories.save g.files s.files := by
  rcases kept.files with same | shape
  · rw [same]
    exact .refl _ _
  · have first := FileTable.savesTo_saveWorld g.directories.save g.world g.files
    rw [← g.files_save.2] at first
    exact first.trans shape.savesTo

/-! ## New games -/

/-- The world of a new game, or why there is none. -/
def fresh (g : Game) : Except StoreError World := (g.load .new).map (·.world)

theorem fresh_eq (g : Game) :
    g.fresh = (World.load g.files g.directories.data).map ({ · with dirty := false }) := by
  have data : g.directories.world .new = g.directories.data := rfl
  unfold fresh load
  rw [data]
  cases World.load g.files g.directories.data <;> rfl

theorem fresh_of_savesTo {g s : Game} (apart : g.directories.Apart)
    (directories : s.directories = g.directories)
    (saved : FileTable.SavesTo g.directories.save g.files s.files) :
    s.fresh = g.fresh ∨
      (∃ file ∈ worldFiles,
        g.fresh = .error (.read (joinPath g.directories.data file) .notFound)) ∧
      g.directories.Paved g.files s.files := by
  rw [fresh_eq, fresh_eq, directories]
  rcases World.load_of_savesTo apart saved with same | ⟨_, failed, ⟨file, listed, rfl⟩, paved⟩
  · exact Or.inl (by rw [same])
  · exact Or.inr ⟨⟨file, listed, by rw [failed]; rfl⟩, paved⟩

theorem AtMostSaved.fresh {g s : Game} (kept : AtMostSaved g s) (apart : g.directories.Apart) :
    s.fresh = g.fresh ∨ s.fresh = g.save.1.fresh := by
  rcases kept.files with same | shape
  · left
    rw [fresh_eq, fresh_eq, same, kept.directories]
  · right
    rw [← g.files_save.1] at apart shape
    have directories : s.directories = g.save.1.directories :=
      kept.directories.trans g.files_save.1.symm
    rcases fresh_of_savesTo apart directories shape.savesTo with same | ⟨_, paved⟩
    · exact same
    · exact absurd paved (Directories.not_paved_of_sameShape shape)

/-- Nothing but a save changes files, and only those of the saved game with the directories on the
way.  From directories at different places a new game is always that of the start or that after one
save.  The two are the same if a game can be loaded from either directory, and differ only if a file
of the data was not found for want of something that the save puts there. -/
theorem new_game_is_always_fresh_iff (g : Game) :
    (∀ events, ∀ s ∈ g.states events, ∀ place,
      FileTable.SavesAt g.directories.save place (g.files.node? place) (s.files.node? place)) ∧
    (∀ events s event, (s, event) ∈ g.steps events → s.request? event ≠ some .save →
      (s.after event).files = s.files) ∧
    (g.directories.Apart →
      (∀ events, ∀ s ∈ g.states events, s.fresh = g.fresh ∨ s.fresh = g.save.1.fresh) ∧
      ((∀ events, ∀ s ∈ g.states events, s.fresh = g.fresh) ↔ g.save.1.fresh = g.fresh) ∧
      (g.save.1.fresh ≠ g.fresh →
        (∃ file ∈ worldFiles,
          g.fresh = .error (.read (joinPath g.directories.data file) .notFound)) ∧
        g.directories.Paved g.files g.save.1.files) ∧
      ∀ mode w, World.load g.files (g.directories.world mode) = .ok w →
        g.save.1.fresh = g.fresh) := by
  have saved := AtMostSaved.savesTo ((AtMostSaved.mk rfl (Or.inl rfl)).then g.savesOnce_save)
  refine ⟨?places, ?quiet, ?worlds⟩
  case places => exact fun events s reached => (g.atMostSaved_states events s reached).savesTo
  case quiet => exact fun events s event _ quiet => (s.sameFiles_after quiet).1
  case worlds =>
    intro apart
    have two : ∀ events, ∀ s ∈ g.states events, s.fresh = g.fresh ∨ s.fresh = g.save.1.fresh :=
      fun events s reached => (g.atMostSaved_states events s reached).fresh apart
    have one := fresh_of_savesTo apart g.files_save.1 saved
    refine ⟨two, ⟨?_, ?_⟩, one.resolve_left, ?_⟩
    · intro always
      exact always [.save] _ (run_mem_states [.save] g)
    · intro same events s reached
      rcases two events s reached with start | saved
      · exact start
      · exact saved.trans same
    · intro mode w loaded
      exact one.resolve_right fun ⟨_, paved⟩ => Directories.not_paved_of_load loaded _ paved

/-- A game with an empty world in `data`, that knows no word but the one for saving. -/
def emptyGame (directories : Directories) (w : World) : Game :=
  { world := w
    vocabulary := ⟨NameMap.ofList [("save_requests", ["save"])], []⟩
    files := (saveWorld {} "data" {}).1
    directories := directories }

/-- A save can change what a new game is.  The way to the data directory may lead through one that
is missing until a save makes it, and directories that are spelled differently may be one. -/
theorem save_changes_new_game :
    let detoured := emptyGame ⟨"a/../data", "a/save"⟩ {}
    let respelled := emptyGame ⟨"data", "./data"⟩ { player := { visitedRooms := ["entry"] } }
    (detoured.directories.Apart ∧
      detoured.fresh = .error (.read "a/../data/items.json" .notFound) ∧
      (detoured.run [.turn "save"]).fresh = .ok {}) ∧
    respelled.directories.data ≠ respelled.directories.save ∧
      respelled.fresh = .ok {} ∧ (respelled.run [.turn "save"]).fresh ≠ .ok {} := by
  intro detoured respelled
  refine ⟨⟨by decide, by decide +kernel, by decide +kernel⟩, by decide, ?_, ?_⟩
  · decide +kernel
  · decide +kernel

end Game

namespace PickleQuest

/-- The adventure at its start, with the fresh world in the data directory. -/
def shipped : Game :=
  { game with files := (saveWorld {} game.directories.data game.world).1 }

/-- The adventure at its start, with directories below one that is missing. -/
def misplaced : Game := { game with directories := ⟨"x/data", "x/save"⟩ }

/-- Whatever is played, the adventure starts with the same fresh world, or fails to if a save makes
no more than the directory above the one of the data. -/
theorem start_is_always_fresh :
    shipped.directories.Apart ∧ misplaced.directories.Apart ∧
    (∀ events, ∀ s ∈ shipped.states events, s.fresh = .ok game.world.persisted) ∧
    ∀ events, ∀ s ∈ misplaced.states events,
      s.fresh = .error (.read "x/data/items.json" .notFound) := by
  have apart : shipped.directories.Apart := by decide
  have apart' : misplaced.directories.Apart := by decide
  have written : saveWorld {} game.directories.data game.world = (shipped.files, none) :=
    Prod.ext rfl (by decide +kernel)
  have settled : game.world.persisted.settlePlayer = game.world.persisted :=
    World.settlePlayer_of_settled (by decide +kernel)
  have loaded : World.load shipped.files (shipped.directories.world .new) =
      .ok game.world.persisted := settled ▸ World.load_saveWorld written
  have start : shipped.fresh = .ok game.world.persisted := by
    rw [Game.fresh, Game.load_of_read loaded]
    rfl
  have failure : misplaced.fresh = .error (.read "x/data/items.json" .notFound) := by
    decide +kernel
  have saved : misplaced.save.1.fresh = misplaced.fresh := by
    rw [failure]
    decide +kernel
  refine ⟨apart, apart', ?_, ?_⟩
  · obtain ⟨_, same, _, kept⟩ := shipped.new_game_is_always_fresh_iff.2.2 apart
    intro events s reached
    rw [same.mpr (kept .new _ loaded) events s reached, start]
  · obtain ⟨_, same, _⟩ := misplaced.new_game_is_always_fresh_iff.2.2 apart'
    intro events s reached
    rw [same.mpr saved events s reached, failure]

end PickleQuest

end TextAdventure
