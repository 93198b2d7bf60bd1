import Mathlib.Data.List.Basic
import TextAdventure.Proofs.Events
import TextAdventure.Proofs.LongestSpans
import TextAdventure.Proofs.LowerCase

/-!
# Synonyms are interchangeable

A verb of one word and a verb of two words are read along different ways, and an absent target is
then written differently.  No command looks at that difference: an intent counts by its action, its
primary target and its present targets (`Intent.Alike`, `carryOut_of_alike`).  Whatever phrase an
action is asked for with, the words after it name the same targets (`Opens.interpret_line`), and so
lines that differ in that phrase alone lead to the same response and the same game
(`synonyms_are_interchangeable`).
-/

set_option autoImplicit false

namespace TextAdventure

/-! ## Intents that ask for the same -/

namespace Intent

/-- Intents that differ at most in how they leave a target out. -/
structure Alike (i j : Intent) : Prop where
  action : i.action = j.action
  primary : i.primaryTarget? = j.primaryTarget?
  present : i.presentTargets = j.presentTargets

theorem Alike.refl (i : Intent) : i.Alike i := ⟨rfl, rfl, rfl⟩

theorem Alike.symm {i j : Intent} (alike : i.Alike j) : j.Alike i :=
  ⟨alike.action.symm, alike.primary.symm, alike.present.symm⟩

theorem Alike.trans {i j k : Intent} (alike : i.Alike j) (next : j.Alike k) : i.Alike k :=
  ⟨alike.action.trans next.action, alike.primary.trans next.primary,
    alike.present.trans next.present⟩

theorem isSilent_of_known {i : Intent} (known : i.action ≠ .unknown) : i.isSilent = false := by
  simp [isSilent, known]

end Intent

theorem World.carryOutMovement_of_alike (w : World) (v : Vocabulary) {i j : Intent}
    (alike : i.Alike j) : w.carryOutMovement v i = w.carryOutMovement v j := by
  simp only [carryOutMovement, alike.action, alike.primary]

theorem World.carryOutCarrying_of_alike (w : World) {i j : Intent} (alike : i.Alike j) :
    w.carryOutCarrying i = w.carryOutCarrying j := by
  simp only [carryOutCarrying, alike.action, alike.primary]

theorem World.carryOutInteraction_of_alike (w : World) {i j : Intent} (alike : i.Alike j) :
    w.carryOutInteraction i = w.carryOutInteraction j := by
  simp only [carryOutInteraction, alike.action, alike.primary, alike.present]

theorem Game.carryOutHousekeeping_of_alike (g : Game) {i j : Intent} (alike : i.Alike j) :
    g.carryOutHousekeeping i = g.carryOutHousekeeping j := by
  simp only [carryOutHousekeeping, alike.action, alike.primary]

theorem Game.carryOut_of_alike (g : Game) {i j : Intent} (alike : i.Alike j) :
    g.carryOut i = g.carryOut j := by
  simp only [carryOut, alike.action, World.carryOutMovement_of_alike _ _ alike,
    World.carryOutCarrying_of_alike _ alike, World.carryOutInteraction_of_alike _ alike,
    g.carryOutHousekeeping_of_alike alike]

/-! ## Phrases in lower case -/

namespace Vocabulary

/-- A word that stays in a line: it is no filler. -/
structure Keeps (v : Vocabulary) (w : String) : Prop where
  word : Text.IsWord w
  kept : v.isFiller w = false

instance (v : Vocabulary) (w : String) : Decidable (v.Keeps w) :=
  decidable_of_iff (Text.IsWord w ∧ v.isFiller w = false)
    ⟨fun ⟨word, kept⟩ => ⟨word, kept⟩, fun ⟨word, kept⟩ => ⟨word, kept⟩⟩

theorem normalize_intercalate {ws : List String} (each : ∀ w ∈ ws, Text.IsWord w) :
    normalize (" ".intercalate ws) = " ".intercalate (ws.map Text.lower) := by
  rw [normalize, Text.trim_intercalate each, Text.lower_intercalate]

theorem normalize_lowered {ws : List String} (each : ∀ w ∈ ws, Text.IsWord w) :
    normalize (" ".intercalate (ws.map Text.lower)) = normalize (" ".intercalate ws) := by
  have lowered := Text.isWord_of_mem_lowered each
  have twice : Text.lower ∘ Text.lower = Text.lower := funext Text.lower_lower
  rw [normalize_intercalate lowered, normalize_intercalate each, List.map_map, twice]

variable (v : Vocabulary)

theorem firstListing?_lowered {α : Type} (tables : List (String × α)) {ws : List String}
    (each : ∀ w ∈ ws, Text.IsWord w) :
    v.firstListing? tables (" ".intercalate (ws.map Text.lower)) =
      v.firstListing? tables (" ".intercalate ws) := by
  simp only [firstListing?, normalize_lowered each]

theorem action_lowered {ws : List String} (each : ∀ w ∈ ws, Text.IsWord w) :
    v.action (" ".intercalate (ws.map Text.lower)) = v.action (" ".intercalate ws) := by
  rw [action, v.firstListing?_lowered actionTables each, action]

theorem keyword?_lowered {ws : List String} (each : ∀ w ∈ ws, Text.IsWord w) :
    v.keyword? (" ".intercalate (ws.map Text.lower)) = v.keyword? (" ".intercalate ws) :=
  v.firstListing?_lowered keywordTables each

theorem isFiller_lower {w : String} (word : Text.IsWord w) :
    v.isFiller (Text.lower w) = v.isFiller w := by
  have single : ∀ other ∈ [w], Text.IsWord other := by
    intro other member
    rwa [List.mem_singleton.mp member]
  have same := normalize_lowered single
  rw [List.map_singleton, String.intercalate_singleton, String.intercalate_singleton] at same
  rw [isFiller, same, isFiller]

end Vocabulary

namespace Reader

variable (r : Reader)

/-- The words of a line that holds no filler. -/
theorem words_line {ws : List String} (each : ∀ w ∈ ws, r.scene.vocabulary.Keeps w) :
    r.words (" ".intercalate ws) = ws.map Text.lower := by
  rw [words, Text.words_intercalate fun w member => (each w member).word, List.filter_eq_self]
  intro w member
  obtain ⟨raw, found, rfl⟩ := List.mem_map.mp member
  simp [r.scene.vocabulary.isFiller_lower (each raw found).word, (each raw found).kept]

/-! ## What becomes of an action -/

/-- Actions that the reader does not refuse, and for whose targets only what the words refer to
counts: the map has a target of its own, and a word that refers to nothing may still have
aliases. -/
structure Opens (a : Action) : Prop where
  known : a ≠ .unknown
  notMap : a ≠ .showMap
  notAliases : a ≠ .aliases
  told : a = .tellStory → r.scene.fromPlayer = false
  listed : a = .objectives → r.development = true

variable {r}

theorem action_congr {one other : String}
    (same : r.scene.vocabulary.action one = r.scene.vocabulary.action other) (d : Dialogue) :
    r.action one d = r.action other d := by
  simp only [action, same]

theorem action_of_unknown {phrase : String}
    (meaningless : r.scene.vocabulary.action phrase = .unknown) (d : Dialogue) :
    r.action phrase d = (.unknown, d) := by
  simp only [action, meaningless]

theorem Opens.action {phrase : String} (opened : r.Opens (r.scene.vocabulary.action phrase))
    (d : Dialogue) :
    (r.action phrase d).1 ≠ .unknown ∧ (r.action phrase d).1 ≠ .showMap ∧
      (r.action phrase d).1 ≠ .aliases := by
  unfold Reader.action
  split
  case h_1 =>
    dsimp only
    split
    case isTrue => decide
    case isFalse => decide
  case h_2 story => simp [opened.told story]
  case h_3 goals => simp [opened.listed goals]
  case h_4 => exact ⟨opened.known, opened.notMap, opened.notAliases⟩

/-! ## Targets -/

theorem wordTarget_eq {a : Action} (notAliases : a ≠ .aliases) (word : String) :
    r.wordTarget a word = r.scene.targets [word] := by
  rw [Scene.targets_word, wordTarget]
  cases r.scene.target? [word] with
  | none => simp [notAliases]
  | some target => rfl

theorem wordsTargets_eq {a : Action} (notAliases : a ≠ .aliases) (words : List String) :
    r.wordsTargets a words = r.scene.targets words := by
  unfold wordsTargets
  cases r.scene.targets words with
  | nil => simp [notAliases]
  | cons target targets => rfl

/-! ## Lines that start with a phrase for an action -/

section Lines

variable {d e : Dialogue} {b : Action} {first second : String} {rest : List String}

theorem oneWord_of_action (known : b ≠ .unknown) (notMap : b ≠ .showMap)
    (asked : r.action first d = (b, e)) : r.oneWord first d = (.untargeted b, e) := by
  simp only [oneWord, asked]

theorem twoWords_of_phrase (known : b ≠ .unknown) (notMap : b ≠ .showMap)
    (asked : r.action (first ++ " " ++ second) d = (b, e)) :
    r.twoWords first second d = (.withTargets b [], e) := by
  simp only [twoWords, asked]

theorem twoWords_of_word (known : b ≠ .unknown) (notAliases : b ≠ .aliases)
    (unjoined : r.action (first ++ " " ++ second) d = (.unknown, d))
    (asked : r.action first d = (b, e)) :
    r.twoWords first second d = (.withTargets b (r.scene.targets [second]), e) := by
  rw [← wordTarget_eq notAliases]
  simp only [twoWords, unjoined, asked]

theorem manyWords_of_phrase (known : b ≠ .unknown) (notMap : b ≠ .showMap)
    (asked : r.action (first ++ " " ++ second) d = (b, e)) :
    r.manyWords first second rest d = (.withTargets b (r.scene.targets rest), e) := by
  simp only [manyWords, asked]

theorem manyWords_of_word (known : b ≠ .unknown) (notAliases : b ≠ .aliases)
    (unjoined : r.action (first ++ " " ++ second) d = (.unknown, d))
    (asked : r.action first d = (b, e)) :
    r.manyWords first second rest d = (.withTargets b (r.scene.targets (second :: rest)), e) := by
  rw [← wordsTargets_eq notAliases]
  simp only [manyWords, unjoined, asked]

end Lines

end Reader

/-! ## Verbs -/

/-- Phrases of one or two words for an action, which are read as such before `rest`: a word alone
must not make a longer phrase with the word that follows. -/
structure Vocabulary.Verb (v : Vocabulary) (a : Action) (rest phrase : List String) : Prop where
  length : phrase.length = 1 ∨ phrase.length = 2
  spoken : ∀ w ∈ phrase, v.Keeps w
  meaning : v.action (" ".intercalate phrase) = a
  unjoined : phrase.length = 1 →
    ∀ w ∈ rest.head?, v.action (" ".intercalate (phrase ++ [w])) = .unknown

namespace Reader

variable {r : Reader}

theorem action_lowered {ws : List String} (each : ∀ w ∈ ws, Text.IsWord w) (d : Dialogue) :
    r.action (" ".intercalate (ws.map Text.lower)) d = r.action (" ".intercalate ws) d :=
  action_congr (r.scene.vocabulary.action_lowered each) d

theorem action_of_meaningless {first next : String} (word : Text.IsWord first)
    (follower : Text.IsWord next)
    (meaningless : r.scene.vocabulary.action (" ".intercalate [first, next]) = .unknown)
    (d : Dialogue) : r.action (Text.lower first ++ " " ++ Text.lower next) d = (.unknown, d) := by
  have pair : ∀ w ∈ [first, next], Text.IsWord w := by
    intro w member
    rcases List.mem_pair.mp member with rfl | rfl
    · exact word
    · exact follower
  exact (action_lowered pair d).trans (action_of_unknown meaningless d)

theorem untargeted_alike (b : Action) : (Intent.untargeted b).Alike (.withTargets b []) :=
  ⟨rfl, rfl, rfl⟩

/-- A line asks for the action of its verb and for what the words after the verb refer to. -/
theorem Opens.interpret_line {a : Action} {phrase rest : List String} (opened : r.Opens a)
    (verb : r.scene.vocabulary.Verb a rest phrase)
    (spoken : ∀ w ∈ rest, r.scene.vocabulary.Keeps w) (d : Dialogue) :
    ∃ intent,
      r.interpret (" ".intercalate (phrase ++ rest)) d =
          (intent, (r.action (" ".intercalate phrase) d).2) ∧
        intent.Alike
          (.withTargets (r.action (" ".intercalate phrase) d).1
            (r.scene.targets (rest.map Text.lower))) := by
  have line : r.words (" ".intercalate (phrase ++ rest)) = (phrase ++ rest).map Text.lower := by
    apply words_line
    intro w member
    rcases List.mem_append.mp member with early | late
    · exact verb.spoken w early
    · exact spoken w late
  have asked := action_lowered (r := r) (fun w member => (verb.spoken w member).word) d
  rw [← verb.meaning] at opened
  obtain ⟨known, notMap, notAliases⟩ := opened.action d
  rcases verb.length with single | double
  · obtain ⟨first, rfl⟩ := List.length_eq_one_iff.mp single
    cases rest with
    | nil =>
        -- Here alone the absent target takes a slot.
        rw [List.map_nil, Scene.targets_nil]
        refine ⟨_, ?_, untargeted_alike _⟩
        rw [interpret, line]
        exact oneWord_of_action known notMap asked
    | cons next more =>
        have unjoined := action_of_meaningless (verb.spoken first (by simp)).word
          (spoken next (by simp)).word (verb.unjoined rfl next rfl) d
        cases more with
        | nil =>
            refine ⟨_, ?_, .refl _⟩
            rw [interpret, line]
            exact twoWords_of_word known notAliases unjoined asked
        | cons third more =>
            refine ⟨_, ?_, .refl _⟩
            rw [interpret, line]
            exact manyWords_of_word known notAliases unjoined asked
  · obtain ⟨first, second, rfl⟩ := List.length_eq_two.mp double
    cases rest with
    | nil =>
        rw [List.map_nil, Scene.targets_nil]
        refine ⟨_, ?_, .refl _⟩
        rw [interpret, line]
        exact twoWords_of_phrase known notMap asked
    | cons third more =>
        refine ⟨_, ?_, .refl _⟩
        rw [interpret, line]
        exact manyWords_of_phrase known notMap asked

end Reader

namespace Game

theorem interpret_eq (g : Game) {line : String} {fromPlayer : Bool} {intent : Intent} {d : Dialogue}
    (heard : (g.reader fromPlayer).interpret line g.dialogue = (intent, d)) :
    g.interpret line fromPlayer = (intent, { g with dialogue := d }) := by
  rw [interpret, heard]

theorem respond_of_alike (g : Game) {one other : String} {fromPlayer : Bool} {i j : Intent}
    {next : Game} (readOne : g.interpret one fromPlayer = (i, next))
    (readOther : g.interpret other fromPlayer = (j, next)) (alike : i.Alike j)
    (known : j.action ≠ .unknown) : g.respond one fromPlayer = g.respond other fromPlayer := by
  have knownOne : i.action ≠ .unknown := by
    rw [alike.action]
    exact known
  simp only [respond, readOne, readOther, Intent.isSilent_of_known known,
    Intent.isSilent_of_known knownOne, alike.action, next.carryOut_of_alike alike]

/-- Lines that ask for the same, after the same questions, and have the same effect. -/
structure Interchangeable (g : Game) (fromPlayer : Bool) (one other : String) : Prop where
  action : (g.interpret one fromPlayer).1.action = (g.interpret other fromPlayer).1.action
  targets : (g.interpret one fromPlayer).1.presentTargets =
    (g.interpret other fromPlayer).1.presentTargets
  questions : (g.interpret one fromPlayer).2.dialogue.asked =
    (g.interpret other fromPlayer).2.dialogue.asked
  effect : g.respond one fromPlayer = g.respond other fromPlayer

/-- It does not matter with which of its phrases an action is asked for. -/
theorem synonyms_are_interchangeable (g : Game) (fromPlayer : Bool) {a : Action}
    (opened : (g.reader fromPlayer).Opens a) {p q rest : List String}
    (one : g.vocabulary.Verb a rest p) (other : g.vocabulary.Verb a rest q)
    (spoken : ∀ w ∈ rest, g.vocabulary.Keeps w) :
    g.Interchangeable fromPlayer (" ".intercalate (p ++ rest)) (" ".intercalate (q ++ rest)) := by
  have same : (g.reader fromPlayer).action (" ".intercalate p) g.dialogue =
      (g.reader fromPlayer).action (" ".intercalate q) g.dialogue :=
    Reader.action_congr (one.meaning.trans other.meaning.symm) g.dialogue
  obtain ⟨i, heardOne, alikeOne⟩ := opened.interpret_line one spoken g.dialogue
  obtain ⟨j, heardOther, alikeOther⟩ := opened.interpret_line other spoken g.dialogue
  rw [same] at heardOne alikeOne
  have alike : i.Alike j := alikeOne.trans alikeOther.symm
  have known : j.action ≠ .unknown := by
    rw [alikeOther.action]
    rw [← other.meaning] at opened
    exact (opened.action g.dialogue).1
  have readOne := g.interpret_eq heardOne
  have readOther := g.interpret_eq heardOther
  refine ⟨?action, ?targets, ?questions, ?effect⟩
  case action =>
    rw [readOne, readOther]
    exact alike.action
  case targets =>
    rw [readOne, readOther]
    exact alike.present
  case questions => rw [readOne, readOther]
  case effect => exact g.respond_of_alike readOne readOther alike known

end Game

namespace PickleQuest

/-- A phrase of two words and a word alone for taking a closer look. -/
theorem doormat_is_examined :
    game.Interchangeable true (" ".intercalate (["Look", "at"] ++ ["Mat"]))
      (" ".intercalate (["examine"] ++ ["Mat"])) := by
  have opened : (game.reader true).Opens .inspect :=
    ⟨by decide, by decide, by decide, by decide, by decide⟩
  have meanings : game.vocabulary.action "Look at" = .inspect ∧
      game.vocabulary.action "examine" = .inspect ∧
      game.vocabulary.action "examine Mat" = .unknown := by
    decide +kernel
  obtain ⟨lookAt, examine, unjoined⟩ := meanings
  have keeps : (∀ w ∈ ["Look", "at"], game.vocabulary.Keeps w) ∧
      (∀ w ∈ ["examine"], game.vocabulary.Keeps w) ∧
      ∀ w ∈ ["Mat"], game.vocabulary.Keeps w := by
    decide +kernel
  have phrase : game.vocabulary.Verb .inspect ["Mat"] ["Look", "at"] :=
    ⟨Or.inr rfl, keeps.1, lookAt, fun single => nomatch single⟩
  have word : game.vocabulary.Verb .inspect ["Mat"] ["examine"] :=
    ⟨Or.inl rfl, keeps.2.1, examine, fun _ w follows => Option.some.inj follows ▸ unjoined⟩
  exact game.synonyms_are_interchangeable true opened phrase word keeps.2.2

end PickleQuest

end TextAdventure
