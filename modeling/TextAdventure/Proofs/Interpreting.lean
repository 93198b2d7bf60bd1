import TextAdventure.Proofs.LongestSpans
import TextAdventure.Language.Interpretation

/-!
# How a line is interpreted

`reads_interpret` says once which ways there are from the words of a line to an intent, and what the
phrases that were tried mean in each.  All that holds of every line splits on these ways and does
not look at the interpretation again.
-/

set_option autoImplicit false

namespace TextAdventure

/-- Whether an action is the outcome of the question before a load. -/
def Action.followsQuestion : Action → Bool
  | loadGame | declineLoad => true
  | _ => false

theorem Action.followsQuestion_iff {action : Action} :
    action.followsQuestion = true ↔ action = .loadGame ∨ action = .declineLoad := by
  cases action <;> decide

theorem Vocabulary.action_ne_declineLoad (v : Vocabulary) (phrase : String) :
    v.action phrase ≠ .declineLoad := by
  have listed : ∀ entry ∈ actionTables, entry.2 ≠ .declineLoad := by decide
  unfold Vocabulary.action firstListing?
  dsimp only
  cases found : actionTables.find? fun entry => v.lists entry.1 (normalize phrase) with
  | none => exact fun same => Action.noConfusion same
  | some entry => exact listed entry (List.mem_of_find?_eq_some found)

namespace Reader

/-! ## One phrase -/

/-- The dialogue after an action was read in `d`: one question was asked if the action is the
outcome of one, and none if not. -/
def Asked (d : Dialogue) (action : Action) (after : Dialogue) : Prop :=
  after = if action.followsQuestion then (d.ask loadQuestion).2 else d

variable (r : Reader)

theorem asked_action (phrase : String) (d : Dialogue) :
    Asked d (r.action phrase d).1 (r.action phrase d).2 := by
  have known := r.scene.vocabulary.action_ne_declineLoad phrase
  unfold Reader.action
  split
  case h_1 =>
      dsimp only
      split <;> rfl
  case h_2 =>
      dsimp only
      split <;> rfl
  case h_3 =>
      dsimp only
      split <;> rfl
  case h_4 =>
      have quiet : (r.scene.vocabulary.action phrase).followsQuestion = false := by
        cases action : r.scene.vocabulary.action phrase <;> simp_all [Action.followsQuestion]
      rw [Asked, quiet]
      rfl

/-- A phrase that means nothing asks nothing either. -/
theorem action_of_fst_unknown {phrase : String} {d : Dialogue}
    (unknown : (r.action phrase d).1 = .unknown) : r.action phrase d = (.unknown, d) := by
  have asked := r.asked_action phrase d
  rw [unknown] at asked
  exact Prod.ext unknown asked

/-! ## A whole line -/

/-- The ways to read a line, with the intent and the dialogue that each comes to. -/
inductive Reads (r : Reader) (line : String) (d : Dialogue) : Intent × Dialogue → Prop
  | nothing (wordless : r.words line = []) : Reads r line d (.silent, d)
  | oneMap {word : String} {after : Dialogue} (words : r.words line = [word])
      (asked : r.action word d = (.showMap, after)) :
      Reads r line d (.withTarget .showMap mapName, after)
  | oneWord {word : String} {action : Action} {after : Dialogue} (words : r.words line = [word])
      (notMap : action ≠ .showMap) (known : action ≠ .unknown)
      (asked : r.action word d = (action, after)) : Reads r line d (.untargeted action, after)
  | onePlace {word target : String} (words : r.words line = [word])
      (unknown : r.action word d = (.unknown, d)) (named : r.scene.target? [word] = some target) :
      Reads r line d (.withTarget .move target, d)
  | oneLost {word : String} (words : r.words line = [word])
      (unknown : r.action word d = (.unknown, d)) (unnamed : r.scene.target? [word] = none) :
      Reads r line d (.untargeted .unknown, d)
  | map {first second : String} {rest : List String} {after : Dialogue}
      (words : r.words line = first :: second :: rest)
      (asked : r.action (first ++ " " ++ second) d = (.showMap, after)) :
      Reads r line d (.withTarget .showMap mapName, after)
  | phrase {first second : String} {rest : List String} {action : Action} {after : Dialogue}
      (words : r.words line = first :: second :: rest) (notMap : action ≠ .showMap)
      (known : action ≠ .unknown) (asked : r.action (first ++ " " ++ second) d = (action, after)) :
      Reads r line d (.withTargets action (r.scene.targets rest), after)
  | verb {first second : String} {rest : List String} {action : Action} {after : Dialogue}
      (words : r.words line = first :: second :: rest)
      (unjoined : r.action (first ++ " " ++ second) d = (.unknown, d))
      (known : action ≠ .unknown) (asked : r.action first d = (action, after)) :
      Reads r line d (.withTargets action (r.wordsTargets action (second :: rest)), after)
  | place {first second : String} {rest places : List String}
      (words : r.words line = first :: second :: rest)
      (unjoined : r.action (first ++ " " ++ second) d = (.unknown, d))
      (unknown : r.action first d = (.unknown, d))
      (named : rest = [] ∧ places = (r.scene.target? [first, second]).toList ∨
        places = r.scene.targets (first :: second :: rest)) :
      Reads r line d (.withTargets .move places, d)

variable {r : Reader} {line : String} {d : Dialogue}

theorem reads_oneWord {word : String} (words : r.words line = [word]) :
    r.Reads line d (r.oneWord word d) := by
  unfold Reader.oneWord
  split
  case h_1 asked => exact .oneMap words asked
  case h_2 same unknown =>
      obtain rfl : same = d := congrArg Prod.snd <|
        unknown.symm.trans (r.action_of_fst_unknown (congrArg Prod.fst unknown))
      split
      case h_1 named => exact .onePlace words unknown named
      case h_2 unnamed => exact .oneLost words unknown unnamed
  case h_3 notMap known asked => exact .oneWord words notMap known asked

/-- A word after the verb is read like several ones. -/
theorem wordTarget_eq_wordsTargets (action : Action) (word : String) :
    r.wordTarget action word = r.wordsTargets action [word] := by
  rw [wordTarget, wordsTargets, Scene.targets_word, String.intercalate_singleton]
  cases r.scene.target? [word] <;> rfl

/-- Two words and more are read apart, but alike if these are the targets in each case. -/
theorem reads_verb {first second : String} {rest places : List String}
    {targets others : Action → List String} (words : r.words line = first :: second :: rest)
    (named : rest = [] ∧ places = (r.scene.target? [first, second]).toList ∨
      places = r.scene.targets (first :: second :: rest))
    (after : ∀ action, targets action = r.wordsTargets action (second :: rest))
    (left : ∀ action, others action = r.scene.targets rest) :
    r.Reads line d <|
      match r.action (first ++ " " ++ second) d with
      | (.showMap, d) => (.withTarget .showMap mapName, d)
      | (.unknown, d) =>
          match r.action first d with
          | (.unknown, d) => (.withTargets .move places, d)
          | (action, d) => (.withTargets action (targets action), d)
      | (action, d) => (.withTargets action (others action), d) := by
  split
  case h_1 asked => exact .map words asked
  case h_2 same unjoined =>
      obtain rfl : same = d := congrArg Prod.snd <|
        unjoined.symm.trans (r.action_of_fst_unknown (congrArg Prod.fst unjoined))
      split
      case h_1 last unknown =>
          obtain rfl : last = same := congrArg Prod.snd <|
            unknown.symm.trans (r.action_of_fst_unknown (congrArg Prod.fst unknown))
          exact .place words unjoined unknown named
      case h_2 known asked =>
          rw [after]
          exact .verb words unjoined known asked
  case h_3 notMap known asked =>
      rw [left]
      exact .phrase words notMap known asked

theorem reads_interpret (r : Reader) (line : String) (d : Dialogue) :
    r.Reads line d (r.interpret line d) := by
  unfold interpret
  split
  case h_1 wordless => exact .nothing wordless
  case h_2 words => exact reads_oneWord words
  case h_3 first second words =>
      exact reads_verb words (Or.inl ⟨rfl, rfl⟩)
        (fun action => wordTarget_eq_wordsTargets action second) fun _ => (Scene.targets_nil _).symm
  case h_4 words => exact reads_verb words (Or.inr rfl) (fun _ => rfl) fun _ => rfl

end Reader

end TextAdventure
