import TextAdventure.Proofs.VerbChoice

/-!
# Asking for the map

A request for the map has a target of its own, whatever other words there are in the line, if a
word alone asks for the map or the first two words do together.  A first word that asks for it by
itself is read like any verb: the targets are what the words after it refer to.
-/

set_option autoImplicit false

namespace TextAdventure

namespace Reader

variable {r : Reader} {d : Dialogue}

/-- The gates neither close the map nor open it for another action. -/
theorem gated_eq_showMap_iff {action : Action} :
    r.gated d action = .showMap ↔ action = .showMap := by
  constructor
  · intro passes
    rcases r.gated_cases d action with passed | closed | declined
    · exact passed.symm.trans passes
    · exact nomatch closed.symm.trans passes
    · exact nomatch declined.symm.trans passes
  · rintro rfl
    rfl

theorem showMap_iff_of_action {phrase : String} {action : Action} {after : Dialogue}
    (asked : r.action phrase d = (action, after)) :
    r.scene.vocabulary.action phrase = .showMap ↔ action = .showMap := by
  rw [← meaning_of_action asked, meaning, gated_eq_showMap_iff]

/-- The first word of a line does not ask for the map together with the second one. -/
structure Unjoined (r : Reader) (line first second : String) (rest : List String) : Prop where
  words : r.words line = first :: second :: rest
  apart : r.scene.vocabulary.action (first ++ " " ++ second) ≠ .showMap

/-- A request for the map has the map for its target, or it is the first word alone that asks for
it and the further words give the targets. -/
theorem interpret_showMap {line : String} (asked : (r.interpret line d).1.action = .showMap) :
    ((r.interpret line d).1.targets = [some mapName] ∧
      ∀ first second rest, ¬r.Unjoined line first second rest) ∨
    ∃ first second rest, r.Unjoined line first second rest ∧
      (r.interpret line d).1.targets = (r.scene.targets (second :: rest)).map some := by
  have reads := r.reads_interpret line d
  generalize r.interpret line d = read at reads asked ⊢
  cases reads with
  | nothing => exact nomatch asked
  | oneMap single =>
      exact Or.inl ⟨rfl, fun _ _ _ unjoined => nomatch single.symm.trans unjoined.words⟩
  | oneWord _ notMap => exact absurd asked notMap
  | onePlace => exact nomatch asked
  | oneLost => exact nomatch asked
  | map words joined =>
      refine Or.inl ⟨rfl, fun _ _ _ unjoined => unjoined.apart ?_⟩
      obtain ⟨rfl, rfl, _⟩ := by simpa using words.symm.trans unjoined.words
      exact (showMap_iff_of_action joined).mpr rfl
  | phrase _ notMap => exact absurd asked notMap
  | @verb first second rest action _ words joined =>
      obtain rfl : action = .showMap := asked
      have apart : r.scene.vocabulary.action (first ++ " " ++ second) ≠ .showMap := fun same =>
        nomatch (showMap_iff_of_action joined).mp same
      refine Or.inr ⟨first, second, rest, ⟨words, apart⟩, ?_⟩
      rw [wordsTargets_eq (by decide)]
      rfl
  | place => exact nomatch asked

/-- A request for the map has the map for its only target exactly if it is not the first word alone
that asks for it, or the further words name the map and nothing else. -/
theorem map_is_the_only_target_iff (r : Reader) (line : String) (d : Dialogue)
    (asked : (r.interpret line d).1.action = .showMap) :
    ((r.interpret line d).1.targets = [some mapName] ↔
      ∀ first second rest, r.Unjoined line first second rest →
        r.scene.targets (second :: rest) = [mapName]) ∧
    ∀ first second rest, r.Unjoined line first second rest →
      (r.interpret line d).1.targets = (r.scene.targets (second :: rest)).map some := by
  rcases interpret_showMap asked with ⟨own, joined⟩ | ⟨first, second, rest, unjoined, targets⟩
  · refine ⟨iff_of_true own ?_, ?_⟩
    · exact fun first second rest unjoined => absurd unjoined (joined first second rest)
    · exact fun first second rest unjoined => absurd unjoined (joined first second rest)
  · have others : ∀ a b more, r.Unjoined line a b more → b :: more = second :: rest := by
      intro a b more also
      exact (List.cons.inj (also.words.symm.trans unjoined.words)).2
    have same : ∀ a b more, r.Unjoined line a b more →
        (r.interpret line d).1.targets = (r.scene.targets (b :: more)).map some := by
      intro a b more also
      rw [others a b more also, targets]
    refine ⟨⟨?_, ?_⟩, same⟩
    · intro own a b more also
      rw [same a b more also] at own
      simpa using own
    · intro named
      rw [targets, named first second rest unjoined]
      rfl

end Reader

namespace PickleQuest

theorem map_is_shown_with_more_words :
    ((game.reader true).interpret "Show map of the kitchen" game.dialogue).1.action = .showMap ∧
      ((game.reader true).interpret "Show map of the kitchen" game.dialogue).1.targets =
        [some Reader.mapName] := by
  have known : ((game.reader true).interpret "Show map of the kitchen" game.dialogue).1.action =
        .showMap ∧
      (game.reader true).words "Show map of the kitchen" = ["show", "map", "kitchen"] ∧
      (game.reader true).scene.vocabulary.action ("show" ++ " " ++ "map") = .showMap := by
    decide +kernel
  obtain ⟨asked, words, joined⟩ := known
  obtain ⟨own, _⟩ := (game.reader true).map_is_the_only_target_iff _ game.dialogue asked
  refine ⟨asked, own.mpr ?_⟩
  rintro first second rest ⟨same, apart⟩
  obtain ⟨rfl, rfl, rfl⟩ := by simpa using words.symm.trans same
  exact absurd joined apart

/-- The words after the first one give the map another target, or none. -/
theorem map_is_lost :
    ((game.reader true).interpret "map of the kitchen" game.dialogue).1 =
        .withTargets .showMap ["kitchen"] ∧
      ((game.reader true).interpret "map please now" game.dialogue).1 =
        .withTargets .showMap [] := by
  decide +kernel

end PickleQuest

end TextAdventure
