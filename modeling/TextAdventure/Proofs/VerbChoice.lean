import TextAdventure.Proofs.Silence
import TextAdventure.Proofs.Synonyms

/-!
# Which verb a line starts with

The first two words of a line decide its action, whatever follows them.  They are tried together,
then the first one alone, and if neither means anything the line is about walking.  A phrase means
what the vocabulary says, as far as the reader lets it pass (`Reader.gated`).
-/

set_option autoImplicit false

namespace TextAdventure

namespace Reader

variable (r : Reader) (d : Dialogue)

/-! ## What a phrase means to a reader -/

/-- What becomes of an action at the gates: a load needs the player's consent, stories are not told
to the player who asks, and objectives are listed under development only. -/
def gated (r : Reader) (d : Dialogue) : Action → Action
  | .loadGame => if d.agrees r.scene.vocabulary then .loadGame else .declineLoad
  | .tellStory => if r.scene.fromPlayer then .unknown else .tellStory
  | .objectives => if r.development then .objectives else .unknown
  | action => action

/-- The gates let an action pass, or they close it. -/
theorem gated_cases (action : Action) :
    r.gated d action = action ∨ r.gated d action = .unknown ∨
      r.gated d action = .declineLoad := by
  unfold gated
  split
  case h_1 => cases d.agrees r.scene.vocabulary <;> simp
  case h_2 => cases r.scene.fromPlayer <;> simp
  case h_3 => cases r.development <;> simp
  case h_4 => exact Or.inl rfl

def meaning (r : Reader) (d : Dialogue) (phrase : String) : Action :=
  r.gated d (r.scene.vocabulary.action phrase)

/-- The action of a line by its first two words. -/
def verb (r : Reader) (d : Dialogue) (first second : String) : Action :=
  if r.meaning d (first ++ " " ++ second) ≠ .unknown then r.meaning d (first ++ " " ++ second)
  else if r.meaning d first ≠ .unknown then r.meaning d first
  else .move

theorem fst_action (phrase : String) : (r.action phrase d).1 = r.meaning d phrase := by
  unfold Reader.action meaning
  cases r.scene.vocabulary.action phrase with
  | loadGame =>
      dsimp only [gated]
      rw [d.ask_answer]
      rfl
  | _ => rfl

variable {r d} in
theorem meaning_of_action {phrase : String} {action : Action} {after : Dialogue}
    (asked : r.action phrase d = (action, after)) : r.meaning d phrase = action := by
  rw [← fst_action, asked]

section Rule

variable {r d} {first second : String}

theorem verb_of_joined (joined : r.meaning d (first ++ " " ++ second) ≠ .unknown) :
    r.verb d first second = r.meaning d (first ++ " " ++ second) := by
  rw [verb, if_pos joined]

theorem verb_of_alone (unjoined : r.meaning d (first ++ " " ++ second) = .unknown)
    (known : r.meaning d first ≠ .unknown) : r.verb d first second = r.meaning d first := by
  rw [verb, if_neg (not_not_intro unjoined), if_pos known]

theorem verb_of_unknown (unjoined : r.meaning d (first ++ " " ++ second) = .unknown)
    (unknown : r.meaning d first = .unknown) : r.verb d first second = .move := by
  rw [verb, if_neg (not_not_intro unjoined), if_neg (not_not_intro unknown)]

end Rule

/-! ## What a line means -/

theorem action_interpret {line first second : String} {rest : List String}
    (words : r.words line = first :: second :: rest) :
    (r.interpret line d).1.action = r.verb d first second := by
  have reads := r.reads_interpret line d
  generalize r.interpret line d = read at reads ⊢
  cases reads with
  | nothing wordless => exact nomatch wordless.symm.trans words
  | oneMap single => exact nomatch single.symm.trans words
  | oneWord single => exact nomatch single.symm.trans words
  | onePlace single => exact nomatch single.symm.trans words
  | oneLost single => exact nomatch single.symm.trans words
  | map same asked =>
      obtain ⟨rfl, rfl, rfl⟩ := by simpa using same.symm.trans words
      have joined := meaning_of_action asked
      rw [verb_of_joined (by rw [joined]; decide), joined]
      rfl
  | phrase same _ known asked =>
      obtain ⟨rfl, rfl, rfl⟩ := by simpa using same.symm.trans words
      have joined := meaning_of_action asked
      rw [verb_of_joined (joined ▸ known), joined]
      rfl
  | verb same unjoined known asked =>
      obtain ⟨rfl, rfl, rfl⟩ := by simpa using same.symm.trans words
      have alone := meaning_of_action asked
      rw [verb_of_alone (meaning_of_action unjoined) (alone ▸ known), alone]
      rfl
  | place same unjoined unknown =>
      obtain ⟨rfl, rfl, rfl⟩ := by simpa using same.symm.trans words
      rw [verb_of_unknown (meaning_of_action unjoined) (meaning_of_action unknown)]
      rfl

theorem words_append (line more : String) :
    r.words (line ++ " " ++ more) = r.words line ++ r.words more := by
  simp only [words, Text.words_append, List.map_append, List.filter_append]

end Reader

namespace Game

theorem respond_of_wordless (g : Game) {line : String} {fromPlayer : Bool}
    (wordless : (g.reader fromPlayer).words line = []) :
    (g.interpret line fromPlayer).1 = .silent ∧ g.respond line fromPlayer = ⟨g, .empty⟩ := by
  have heard : (g.reader fromPlayer).interpret line g.dialogue = (.silent, g.dialogue) := by
    rw [Reader.interpret, wordless]
  have read : g.interpret line fromPlayer = (.silent, g) := g.interpret_eq heard
  rw [respond, read]
  exact ⟨rfl, rfl⟩

/-- A line is silent exactly if it has no words, and then it does nothing.  Of any other line but a
word alone the first two words choose the action: a verb of two words comes before what its words
mean alone, and words after the second make no difference. -/
theorem verb_is_chosen_by_first_two_words (g : Game) (line : String) (fromPlayer : Bool) :
    let r := g.reader fromPlayer
    let action := (g.interpret line fromPlayer).1.action
    ((g.interpret line fromPlayer).1.isSilent = true ↔ r.words line = []) ∧
    (r.words line = [] →
      (g.interpret line fromPlayer).1 = .silent ∧ g.respond line fromPlayer = ⟨g, .empty⟩) ∧
    ∀ first second rest, r.words line = first :: second :: rest →
      action = r.verb g.dialogue first second ∧
      (r.meaning g.dialogue (first ++ " " ++ second) ≠ .unknown →
        action = r.meaning g.dialogue (first ++ " " ++ second)) ∧
      (∀ other others, r.words other = first :: second :: others →
        (g.interpret other fromPlayer).1.action = action) ∧
      ∀ more, (g.interpret (line ++ " " ++ more) fromPlayer).1.action = action := by
  intro r action
  refine ⟨r.isSilent_interpret_iff g.dialogue line, g.respond_of_wordless, ?_⟩
  intro first second rest words
  have chosen : action = r.verb g.dialogue first second := r.action_interpret g.dialogue words
  have same : ∀ other others, r.words other = first :: second :: others →
      (g.interpret other fromPlayer).1.action = action := fun other others starts =>
    (r.action_interpret g.dialogue starts).trans chosen.symm
  refine ⟨chosen, ?_, same, ?_⟩
  · intro joined
    exact chosen.trans (Reader.verb_of_joined joined)
  · intro more
    apply same _ (rest ++ r.words more)
    rw [r.words_append, words]
    rfl

end Game

namespace PickleQuest

/-- However a line goes on that starts with looking at something, it is about a closer look. -/
theorem look_at_wins_over_look :
    game.vocabulary.action "look" = .look ∧ game.respond " the " true = ⟨game, .empty⟩ ∧
      ∀ more, (game.interpret ("Look at" ++ " " ++ more) true).1.action = .inspect := by
  have known : game.vocabulary.action "look" = .look ∧
      (game.reader true).words " the " = [] ∧
      (game.reader true).words "Look at" = ["look", "at"] ∧
      (game.reader true).meaning game.dialogue ("look" ++ " " ++ "at") = .inspect := by
    decide +kernel
  obtain ⟨alone, wordless, words, joined⟩ := known
  obtain ⟨_, silent, _⟩ := game.verb_is_chosen_by_first_two_words " the " true
  obtain ⟨_, _, chosen⟩ := game.verb_is_chosen_by_first_two_words "Look at" true
  obtain ⟨_, wins, _, continued⟩ := chosen "look" "at" [] words
  refine ⟨alone, (silent wordless).2, fun more => ?_⟩
  rw [continued more, wins (by rw [joined]; decide), joined]

end PickleQuest

end TextAdventure
