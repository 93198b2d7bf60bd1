import TextAdventure.Proofs.Course

/-!
# The end of a session

A session over lines of text breaks off only if a new game is asked for and there is none; else it
closes, with the farewell, when the lines have ended or right after the player asked to leave.  The
lines are read in order, and each stage but two reads one, so a course is hardly longer than its
input.
-/

set_option autoImplicit false

namespace TextAdventure

namespace Game

seal askMode loadCommand takeTurn

/-! ## How long a course is -/

theorem Chooses.bounded {g last : Game} {stages : List Stage} {printout : Printout}
    (chooses : g.Chooses stages printout last) :
    stages.length + last.dialogue.pending.length ≤ g.dialogue.pending.length + 1 := by
  induction chooses with
  | @loaded g success =>
      have read := congrArg List.length g.lines_choice
      rw [List.length_append] at read
      rw [List.length_singleton]
      omega
  | @broken g error =>
      have read := congrArg List.length g.lines_choice
      rw [List.length_append] at read
      rw [List.length_singleton]
      omega
  | @again g last stages printout failure later ih =>
      have used := pending_of_failure failure
      rw [List.length_cons]
      omega

theorem Plays.bounded {g : Game} {stages : List Stage} {e : SessionEnd}
    (plays : g.Plays stages e) : stages.length ≤ g.dialogue.pending.length + 1 := by
  induction plays with
  | left inactive => exact Nat.le_add_left _ _
  | ended active heard => exact Nat.le_add_left _ _
  | garbled active heard => exact Nat.le_add_left _ _
  | @blank g h line stages e active heard void later ih =>
      have next := congrArg List.length (next_of_readLine heard).1
      rw [List.length_cons] at next ⊢
      omega
  | broken active heard spoken error => exact Nat.le_add_left _ _
  | @turn g h line stages e active heard spoken fine later ih =>
      have next := congrArg List.length (next_of_readLine heard).1
      have used := h.length_answered line
      rw [List.length_cons] at next ⊢
      omega

/-! ## What breaks a session off -/

theorem fatal?_eq_none {printout : Printout} :
    fatal? printout = none ↔ ∀ entry ∈ printout, entry.1.Calm := by
  rw [fatal?, Option.map_eq_none_iff, List.find?_eq_none]
  simp [Response.Calm]

theorem breaks_choice_iff (g : Game) :
    g.chosen.response.status = .error ↔ (Stage.choice g).Breaks := by
  rw [chosen, loadCommand_error_iff]
  refine and_congr_right fun _ => ?_
  unfold askMode
  split
  · exact g.newGameFails_asked _
  · exact Iff.rfl

theorem breaks_turn_iff (g : Game) (line : String) :
    fatal? (g.takeTurn line).1 ≠ none ↔ (Stage.turn g line).Breaks := by
  have told : fatal? (g.takeTurn line).1 = none ↔ (g.respond line true).response.Calm := by
    rw [fatal?_eq_none, takeTurn_eq, List.forall_mem_cons]
    exact and_iff_left (calm_rollCredits _)
  rw [ne_eq, told, Response.Calm, Decidable.not_not]
  exact g.respond_error_iff line true

theorem Chooses.breaks {g last : Game} {stages : List Stage} {printout : Printout}
    (chooses : g.Chooses stages printout last) :
    fatal? printout ≠ none ↔ ∃ stage ∈ stages, stage.Breaks := by
  induction chooses with
  | @loaded g success =>
      have calm : fatal? [g.told, g.chosen.state.firstLook] = none := by
        rw [fatal?_eq_none, List.forall_mem_cons, List.forall_mem_singleton]
        exact ⟨.of_success success, g.chosen.state.world.calm_look _ _⟩
      have goes : ¬ (Stage.choice g).Breaks := by
        rw [← breaks_choice_iff, success]
        decide
      simp [calm, goes]
  | @broken g error =>
      have told : fatal? [g.told] ≠ none := by
        rw [ne_eq, fatal?_eq_none]
        intro calm
        exact calm g.told List.mem_cons_self error
      simp [told, g.breaks_choice_iff.mp error]
  | @again g last stages printout failure later ih =>
      have goes : ¬ (Stage.choice g).Breaks := by
        rw [← breaks_choice_iff, failure]
        decide
      have skipped : fatal? (g.told :: printout) = fatal? printout := by
        have other : g.told.1.status ≠ .error := by
          rw [told, failure]
          decide
        simp [fatal?, other]
      rw [skipped, ih]
      simp [goes]

theorem Plays.breaks {g : Game} {stages : List Stage} {e : SessionEnd} (plays : g.Plays stages e) :
    e.error? ≠ none ↔ ∃ stage ∈ stages, stage.Breaks := by
  induction plays with
  | left inactive => simp [finish, Stage.Breaks, Stage.NewGameFails]
  | ended active heard => simp [finish, Stage.Breaks, Stage.NewGameFails]
  | garbled active heard => simp [Stage.Breaks]
  | blank active heard void later ih =>
      rw [ih]
      simp [Stage.Breaks, Stage.NewGameFails]
  | @broken g h line answer active heard spoken error =>
      have breaks := (h.breaks_turn_iff line).mp (by simp [error])
      simp [breaks]
  | @turn g h line stages e active heard spoken fine later ih =>
      have goes : ¬ (Stage.turn h line).Breaks := by
        rw [← breaks_turn_iff, fine]
        exact not_not_intro rfl
      rw [ih]
      simp [goes]

theorem Session.breaks {g : Game} {stages : List Stage} {e : SessionEnd}
    (session : g.Session stages e) : e.error? ≠ none ↔ ∃ stage ∈ stages, stage.Breaks := by
  cases session with
  | broken chooses error =>
      rw [← chooses.breaks, error]
      simp
  | @played chosen choices stages printout e chooses fine plays =>
      have goes := (not_congr chooses.breaks).mp (not_not_intro fine)
      rw [plays.breaks]
      simp only [List.mem_append, or_and_right, exists_or, goes, false_or]

theorem Session.reads {g : Game} {stages : List Stage} {e : SessionEnd}
    (session : g.Session stages e) :
    stages.flatMap Stage.lines ++ e.game.dialogue.pending = g.dialogue.pending := by
  cases session with
  | broken chooses error =>
      rw [pending_putAll, chooses.reads, pending_putAll]
  | played chooses fine plays =>
      rw [List.flatMap_append, List.append_assoc, plays.reads, pending_putAll, chooses.reads,
        pending_putAll]

theorem Session.bounded {g : Game} {stages : List Stage} {e : SessionEnd}
    (session : g.Session stages e) : stages.length ≤ g.dialogue.pending.length + 2 := by
  cases session with
  | broken chooses error =>
      have choices := chooses.bounded
      rw [pending_putAll] at choices
      omega
  | played chooses fine plays =>
      have choices := chooses.bounded
      have turns := plays.bounded
      rw [pending_putAll] at choices turns
      rw [List.length_append]
      omega

/-! ## How a session ends -/

theorem leaves_turn_iff {g : Game} {line : String} (active : g.active = true) :
    (Stage.turn g line).Leaves ↔ (g.answered line).active = false := by
  rw [answered, active_putAll, active_takeTurn, active]
  simp [Stage.Leaves]

/-- A line that asks to leave is all that its turn reads, and does not break the session off. -/
theorem leaves_calmly {g : Game} {line : String} (leaves : (Stage.turn g line).Leaves) :
    (Stage.turn g line).lines = [.text line] ∧ ¬ (Stage.turn g line).Breaks := by
  change (g.interpret line true).1.action = .exit at leaves
  constructor
  · rw [Stage.lines, leaves]
    rfl
  · rintro ⟨new, _⟩
    rw [leaves] at new
    contradiction

/-- After the player asks to leave there is nothing but the closing. -/
def LeavesLast (stages : List Stage) : Prop :=
  ∀ before g line after, stages = before ++ .turn g line :: after → (Stage.turn g line).Leaves →
    after = [.closing (g.answered line)]

theorem leavesLast_nil : LeavesLast [] := by
  intro before g line after split
  simp at split

theorem leavesLast_cons {stage : Stage} {rest : List Stage} (last : LeavesLast rest)
    (first : ∀ g line, stage = .turn g line → (Stage.turn g line).Leaves →
      rest = [.closing (g.answered line)]) : LeavesLast (stage :: rest) := by
  intro before g line after split leaves
  cases before with
  | nil =>
      obtain ⟨same, rfl⟩ := List.cons.inj split
      exact first g line same leaves
  | cons _ before => exact last before g line after (List.cons.inj split).2 leaves

/-- A stage in which the player does not ask to leave does not matter. -/
theorem leavesLast_other {stage : Stage} {rest : List Stage} (last : LeavesLast rest)
    (other : ¬ stage.Leaves) : LeavesLast (stage :: rest) := by
  refine leavesLast_cons last fun g line same leaves => ?_
  rw [same] at other
  exact absurd leaves other

theorem Plays.leavesLast {g : Game} {stages : List Stage} {e : SessionEnd}
    (plays : g.Plays stages e) : LeavesLast stages := by
  induction plays with
  | left inactive => exact leavesLast_other leavesLast_nil id
  | ended active heard => exact leavesLast_other leavesLast_nil id
  | garbled active heard => exact leavesLast_other leavesLast_nil id
  | blank active heard void later ih => exact leavesLast_other ih id
  | @broken g h line answer active heard spoken error =>
      have breaks := (h.breaks_turn_iff line).mp (by simp [error])
      exact leavesLast_other leavesLast_nil fun leaves => (leaves_calmly leaves).2 breaks
  | @turn g h line stages e active heard spoken fine later ih =>
      refine leavesLast_cons ih ?_
      rintro _ _ ⟨⟩ leaves
      have still : h.active = true := (next_of_readLine heard).2.trans active
      have stopped := (leaves_turn_iff still).mp leaves
      cases later with
      | left _ => rfl
      | _ => simp_all

theorem Plays.closes {g : Game} {stages : List Stage} {e : SessionEnd} (plays : g.Plays stages e)
    (fine : e.error? = none) :
    ∃ before s, stages = before ++ [.closing s] ∧ e = s.finish ∧
      (s.dialogue.pending = [] ∨ (before = [] ∧ g.active = false) ∨
        ∃ earlier stage, before = earlier ++ [stage] ∧ stage.Leaves) := by
  induction plays with
  | left inactive => exact ⟨[], _, rfl, rfl, Or.inr (Or.inl ⟨rfl, inactive⟩)⟩
  | @ended g h active heard =>
      obtain ⟨empty, rfl⟩ := none_of_readLine heard
      exact ⟨[], _, rfl, rfl, Or.inl empty⟩
  | garbled active heard => contradiction
  | @blank g h line stages e active heard void later ih =>
      have still : h.active = true := (next_of_readLine heard).2.trans active
      obtain ⟨before, s, rfl, finished, empty | ⟨_, stopped⟩ | ⟨earlier, stage, rfl, leaves⟩⟩ :=
        ih fine
      · exact ⟨_ :: before, s, rfl, finished, Or.inl empty⟩
      · rw [still] at stopped
        contradiction
      · refine ⟨_ :: (earlier ++ [stage]), s, rfl, finished, ?_⟩
        exact Or.inr (Or.inr ⟨_ :: earlier, stage, rfl, leaves⟩)
  | broken active heard spoken error => contradiction
  | @turn g h line stages e active heard spoken answered later ih =>
      have still : h.active = true := (next_of_readLine heard).2.trans active
      obtain ⟨before, s, rfl, finished, empty | ⟨rfl, stopped⟩ | ⟨earlier, stage, rfl, leaves⟩⟩ :=
        ih fine
      · exact ⟨_ :: before, s, rfl, finished, Or.inl empty⟩
      · refine ⟨[_], s, rfl, finished, Or.inr (Or.inr ⟨[], _, rfl, ?_⟩)⟩
        exact (leaves_turn_iff still).mpr stopped
      · refine ⟨_ :: (earlier ++ [stage]), s, rfl, finished, ?_⟩
        exact Or.inr (Or.inr ⟨_ :: earlier, stage, rfl, leaves⟩)

theorem Chooses.stays {g last : Game} {stages : List Stage} {printout : Printout}
    (chooses : g.Chooses stages printout last) :
    last.active = g.active ∧ ∀ stage ∈ stages, ¬ stage.Leaves := by
  have chosen : ∀ g : Game, g.chosen.state.active = g.active := by
    intro g
    rw [Game.chosen, active_loadCommand]
    unfold askMode
    split <;> rfl
  induction chooses with
  | @loaded g success => exact ⟨chosen g, fun stage listed => by simp_all [Stage.Leaves]⟩
  | @broken g error => exact ⟨chosen g, fun stage listed => by simp_all [Stage.Leaves]⟩
  | @again g last stages printout failure later ih =>
      refine ⟨ih.1.trans (chosen g), ?_⟩
      rw [List.forall_mem_cons]
      exact ⟨id, ih.2⟩

theorem leavesLast_append {choices stages : List Stage} (stays : ∀ stage ∈ choices, ¬ stage.Leaves)
    (last : LeavesLast stages) : LeavesLast (choices ++ stages) := by
  induction choices with
  | nil => exact last
  | cons choice rest ih =>
      rw [List.forall_mem_cons] at stays
      exact leavesLast_other (ih stays.2) stays.1

theorem Session.leavesLast {g : Game} {stages : List Stage} {e : SessionEnd}
    (session : g.Session stages e) : LeavesLast stages := by
  cases session with
  | broken chooses error =>
      rw [← List.append_nil stages]
      exact leavesLast_append chooses.stays.2 leavesLast_nil
  | played chooses fine plays => exact leavesLast_append chooses.stays.2 plays.leavesLast

theorem Session.closes {g : Game} {stages : List Stage} {e : SessionEnd}
    (session : g.Session stages e) (active : g.active = true) (fine : e.error? = none) :
    ∃ before s, stages = before ++ [.closing s] ∧ e = s.finish ∧
      (s.dialogue.pending = [] ∨ ∃ earlier stage, before = earlier ++ [stage] ∧ stage.Leaves) := by
  cases session with
  | broken chooses error => contradiction
  | @played chosen choices stages printout e chooses told plays =>
      have going : (chosen.putAll printout).active = true := by
        rw [active_putAll, chooses.stays.1, active_putAll, active]
      obtain ⟨before, s, rfl, finished, empty | ⟨_, stopped⟩ | ⟨earlier, stage, rfl, leaves⟩⟩ :=
        plays.closes fine
      · exact ⟨choices ++ before, s, (List.append_assoc _ _ _).symm, finished, Or.inl empty⟩
      · rw [going] at stopped
        contradiction
      · refine ⟨choices ++ (earlier ++ [stage]), s, (List.append_assoc _ _ _).symm, finished, ?_⟩
        exact Or.inr ⟨choices ++ earlier, stage, (List.append_assoc _ _ _).symm, leaves⟩

theorem farewell_finish (g : Game) :
    g.finish.game.dialogue.transcript.head? =
      some (.response (.success Reply.farewell) g.closing.2.speed) := by
  have said : g.finish.game =
      (g.closing.2.putAll g.offerSave.1).put
        (.response (.success Reply.farewell) g.closing.2.speed) := by
    change g.closing.2.putAll (g.offerSave.1 ++ [(.success Reply.farewell, g.closing.2.speed)]) = _
    simp only [putAll, List.foldl_append, List.foldl_cons, List.foldl_nil]
  rw [said]
  rfl

theorem new_starts {t : FileTable} {directories : Directories} {dialogue : Dialogue} {speed : Speed}
    {development : Bool} {g : Game}
    (made : Game.new t directories dialogue speed development = .ok g) :
    g.active = true ∧ g.dialogue.pending = dialogue.pending := by
  obtain ⟨vocabulary, _, made⟩ := bind_eq_ok.mp made
  obtain ⟨stories, _, made⟩ := bind_eq_ok.mp made
  obtain ⟨art, _, made⟩ := bind_eq_ok.mp made
  cases made
  exact ⟨rfl, rfl⟩

/-- What the course of a session over these lines is like. -/
structure EndsCleanly (lines : List String) (stages : List Stage) (e : SessionEnd) : Prop where
  bounded : stages.length ≤ lines.length + 2
  /-- The lines are read in order, each at most once. -/
  inOrder : stages.flatMap Stage.lines ++ e.game.dialogue.pending = lines.map .text
  fails : e.error? ≠ none ↔ ∃ stage ∈ stages, stage.NewGameFails
  farewell : e.error? = none → ∃ speed, e.game.dialogue.transcript.head? =
    some (.response (.success Reply.farewell) speed)
  /-- It closes when there are no lines left, or after the player asked to leave. -/
  closes : e.error? = none → ∃ before s, stages = before ++ [.closing s] ∧
    (s.dialogue.pending = [] ∨ ∃ earlier stage, before = earlier ++ [stage] ∧ stage.Leaves)
  /-- Then nothing is read but an answer, if there is anything to save. -/
  leaves : ∀ before g line after, stages = before ++ .turn g line :: after →
    (Stage.turn g line).Leaves →
    (Stage.turn g line).lines = [.text line] ∧ after = [.closing (g.answered line)] ∧
      after.flatMap Stage.lines =
        if (g.answered line).world.dirty then (g.answered line).dialogue.pending.take 1 else []

theorem Session.endsCleanly {g : Game} {lines : List String} {stages : List Stage} {e : SessionEnd}
    (session : g.Session stages e) (active : g.active = true)
    (input : g.dialogue.pending = lines.map .text) : EndsCleanly lines stages e where
  bounded := by
    have bound := session.bounded
    rwa [input, List.length_map] at bound
  inOrder := session.reads.trans input
  fails := by
    have read := session.reads.trans input
    have legible : Stage.garbled ∉ stages := by
      intro listed
      have garbled : InputLine.garbled ∈ stages.flatMap Stage.lines :=
        List.mem_flatMap.mpr ⟨.garbled, listed, List.mem_singleton.mpr rfl⟩
      have member : InputLine.garbled ∈ lines.map .text := by
        rw [← read]
        exact List.mem_append_left _ garbled
      obtain ⟨line, _, same⟩ := List.mem_map.mp member
      contradiction
    rw [session.breaks]
    refine exists_congr fun stage => and_congr_right fun listed => ?_
    cases stage with
    | garbled => exact absurd listed legible
    | _ => exact Iff.rfl
  farewell := by
    intro fine
    obtain ⟨_, s, _, rfl, _⟩ := session.closes active fine
    exact ⟨_, s.farewell_finish⟩
  closes := by
    intro fine
    obtain ⟨before, s, split, _, reason⟩ := session.closes active fine
    exact ⟨before, s, split, reason⟩
  leaves := by
    intro before g line after split leaves
    have rest := session.leavesLast before g line after split leaves
    refine ⟨(leaves_calmly leaves).1, rest, ?_⟩
    rw [rest]
    exact List.flatMap_singleton _ _

/-- A session of a game that was made over lines of text has a course, which is the one that is
played; it fails only for want of a new game, and else it says goodbye. -/
theorem session_ends_cleanly {t : FileTable} {directories : Directories} {lines : List String}
    {speed : Speed} {development : Bool} {g : Game}
    (made : Game.new t directories { pending := lines.map .text } speed development = .ok g) :
    (∃ stages, g.Session stages g.play) ∧
      ∀ stages e, g.Session stages e → e = g.play ∧ EndsCleanly lines stages e := by
  obtain ⟨active, input⟩ := new_starts made
  refine ⟨g.session_play, fun stages e session => ?_⟩
  exact ⟨session.eq_play, session.endsCleanly active input⟩

end Game

/-! ## A small game -/

namespace Hall

/-- One room and one word, which leaves it. -/
def files : FileTable :=
  (writeFiles (({} : FileTable).makeDirectories "data").1 "data" [
    (vocabularyFile, "\x7b\"exit_requests\": [\"leave\"]\x7d"),
    (storiesFile, "\x7b\x7d"),
    (artFile, "\x7b\x7d"),
    (roomsFile, "[\x7b\"name\": \"entry\"\x7d]"),
    (itemsFile, "[]"),
    (playerFile, "\x7b\x7d"),
    (objectivesFile, "[]")]).1

def game? (lines : List String) : Except StoreError Game :=
  Game.new files ⟨"data", "save"⟩ { pending := lines.map .text } .medium false

/-- There is nothing to save when the hall is left, and the last line is not read any more. -/
theorem hall_is_left :
    ∃ g, game? ["", "leave", "yes"] = .ok g ∧ g.play.error? = none ∧
      (∃ stages, g.Session stages g.play ∧ stages.length ≤ 5 ∧
        stages.flatMap Stage.lines = [.text "", .text "leave"]) ∧
      ∃ speed, g.play.game.dialogue.transcript.head? =
        some (.response (.success Reply.farewell) speed) := by
  have played : (game? ["", "leave", "yes"]).toOption.map
      (fun g => (g.play.error?, g.play.game.dialogue.pending)) = some (none, [.text "yes"]) := by
    decide +kernel
  cases made : game? ["", "leave", "yes"] with
  | error error =>
      rw [made] at played
      contradiction
  | ok g =>
      rw [made] at played
      obtain ⟨fine, left⟩ := Prod.mk.inj (Option.some.inj played)
      obtain ⟨⟨stages, session⟩, clean⟩ := Game.session_ends_cleanly made
      obtain ⟨_, ends⟩ := clean stages g.play session
      have order := ends.inOrder
      rw [left] at order
      exact ⟨g, rfl, fine, ⟨stages, session, ends.bounded, List.append_cancel_right order⟩,
        ends.farewell fine⟩

end Hall

end TextAdventure
