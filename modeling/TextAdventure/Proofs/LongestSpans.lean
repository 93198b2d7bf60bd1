import TextAdventure.Language.Target

/-!
# The longest span first

The window of a search tries spans of the words, longer ones before shorter ones and, among those of
a length, from left to right.  So what it finds is the longest span that refers to something, the
leftmost of these; and it never reaches beyond the words.  `Scene.Names` is the rule that a search
follows, without the window.
-/

set_option autoImplicit false

namespace TextAdventure

/-- A stretch of words, with what stands before and after it. -/
structure Span where
  before : List String
  inside : List String
  after : List String

namespace Span

/-- The words that are left when the span is taken out. -/
def rest (span : Span) : List String := span.before ++ span.after

/-- The span is one of these words, and not empty. -/
structure LiesIn (span : Span) (words : List String) : Prop where
  nonempty : span.inside ≠ []
  whole : span.before ++ span.inside ++ span.after = words

/-- The span is longer than another one, or as long and not further right. -/
def Leads (span other : Span) : Prop :=
  other.inside.length < span.inside.length ∨
    other.inside.length = span.inside.length ∧ span.before.length ≤ other.before.length

theorem LiesIn.length {span : Span} {words : List String} (lies : span.LiesIn words) :
    span.before.length + span.inside.length + span.after.length = words.length := by
  rw [← lies.whole, List.length_append, List.length_append]

theorem LiesIn.positive {span : Span} {words : List String} (lies : span.LiesIn words) :
    0 < span.inside.length :=
  List.length_pos_iff.mpr lies.nonempty

theorem LiesIn.eq {span other : Span} {words : List String} (lies : span.LiesIn words)
    (also : other.LiesIn words) (start : span.before.length = other.before.length)
    (length : span.inside.length = other.inside.length) : span = other := by
  have same : span.before ++ (span.inside ++ span.after) =
      other.before ++ (other.inside ++ other.after) := by
    rw [← List.append_assoc, ← List.append_assoc, lies.whole, also.whole]
  obtain ⟨before, rest⟩ := List.append_inj same start
  obtain ⟨inside, after⟩ := List.append_inj rest length
  cases span
  cases other
  simp_all

end Span

namespace Scene

/-- A span is the longest of the words that names a target, and the leftmost of these. -/
structure Picks (s : Scene) (words : List String) (span : Span) (target : String) : Prop where
  lies : span.LiesIn words
  names : s.target? span.inside = some target
  leads : ∀ other : Span, other.LiesIn words → s.target? other.inside ≠ none → span.Leads other

/-- Words name these targets: none if no span does, and else that of the longest, leftmost span
that does before those of the words that are left without it. -/
inductive Names (s : Scene) : List String → List String → Prop
  | nothing {words : List String}
      (unnamed : ∀ span : Span, span.LiesIn words → s.target? span.inside = none) :
      Names s words []
  | first {words targets : List String} {span : Span} {target : String}
      (picks : s.Picks words span target) (more : Names s span.rest targets) :
      Names s words (target :: targets)

variable {s : Scene} {words : List String}

theorem Picks.unique {span other : Span} {target target' : String}
    (picks : s.Picks words span target) (also : s.Picks words other target') :
    span = other ∧ target = target' := by
  have ahead := picks.leads other also.lies (by simp [also.names])
  have behind := also.leads span picks.lies (by simp [picks.names])
  have same : span = other := by
    apply picks.lies.eq also.lies
    · unfold Span.Leads at ahead behind
      omega
    · unfold Span.Leads at ahead behind
      omega
  refine ⟨same, ?_⟩
  have names := picks.names
  rw [same, also.names] at names
  exact (Option.some.inj names).symm

theorem Names.unique {targets others : List String} (names : s.Names words targets)
    (also : s.Names words others) : targets = others := by
  induction names generalizing others with
  | nothing unnamed =>
      cases also with
      | nothing => rfl
      | first picks =>
          have none := unnamed _ picks.lies
          rw [picks.names] at none
          contradiction
  | first picks more ih =>
      cases also with
      | nothing unnamed =>
          have none := unnamed _ picks.lies
          rw [picks.names] at none
          contradiction
      | first others rest =>
          obtain ⟨rfl, rfl⟩ := picks.unique others
          rw [ih rest]

/-! ## The window -/

/-- The span in a window. -/
def spanAt (words : List String) (length start : Nat) : Span :=
  ⟨words.take start, (words.drop start).take length, words.drop (start + length)⟩

theorem liesIn_spanAt {length start : Nat} (positive : length ≠ 0)
    (fits : start + length ≤ words.length) : (spanAt words length start).LiesIn words where
  nonempty := by
    rw [← List.length_pos_iff, spanAt, List.length_take, List.length_drop]
    omega
  whole := by
    simp only [spanAt]
    rw [List.append_assoc, ← List.drop_drop, List.take_append_drop, List.take_append_drop]

theorem length_spanAt {length start : Nat} (fits : start + length ≤ words.length) :
    (spanAt words length start).inside.length = length ∧
      (spanAt words length start).before.length = start := by
  simp only [spanAt, List.length_take, List.length_drop]
  omega

theorem window?_eq {length start : Nat} (fits : start + length ≤ words.length) :
    window? words length start = some (spanAt words length start).inside := by
  rw [window?, if_pos fits]
  rfl

/-- Each span that comes before a window names nothing: the longer ones, and those of its length
that are further left. -/
def Tried (s : Scene) (words : List String) (length start : Nat) : Prop :=
  ∀ span : Span, span.LiesIn words →
    length < span.inside.length ∨ span.inside.length = length ∧ span.before.length < start →
    s.target? span.inside = none

theorem tried_start : s.Tried words words.length 0 := by
  intro span lies before
  have length := lies.length
  omega

theorem Tried.picks {length start : Nat} (tried : s.Tried words length start)
    (positive : length ≠ 0) (fits : start + length ≤ words.length) {target : String}
    (names : s.target? (spanAt words length start).inside = some target) :
    s.Picks words (spanAt words length start) target where
  lies := liesIn_spanAt positive fits
  names := names
  leads := by
    intro other lies named
    obtain ⟨size, place⟩ := length_spanAt fits
    have late := mt (tried other lies) named
    rw [Span.Leads, size, place]
    omega

/-- If the words in a window name nothing, then no span up to there does. -/
theorem Tried.missed {length start : Nat} (tried : s.Tried words length start)
    (fits : start + length ≤ words.length) (positive : length ≠ 0)
    (missed : s.target? (spanAt words length start).inside = none) {span : Span}
    (lies : span.LiesIn words)
    (before : length < span.inside.length ∨
      span.inside.length = length ∧ span.before.length ≤ start) :
    s.target? span.inside = none := by
  obtain ⟨size, place⟩ := length_spanAt fits
  by_cases here : span.inside.length = length ∧ span.before.length = start
  · have same := lies.eq (liesIn_spanAt positive fits) (here.2.trans place.symm)
      (here.1.trans size.symm)
    rw [same]
    exact missed
  · exact tried span lies (by omega)

/-- From a window that fits and before which all is tried, the search finds what the words name. -/
theorem names_of_tried {length start : Nat} (fits : start + length ≤ words.length)
    (tried : s.Tried words length start) :
    ∃ targets, s.search? words length start = some targets ∧ s.Names words targets := by
  fun_induction s.search? words length start with
  | case1 words start =>
      refine ⟨[], rfl, .nothing ?_⟩
      intro span lies
      exact tried span lies (Or.inl lies.positive)
  | case2 words length start positive beyond =>
      rw [window?_eq fits] at beyond
      contradiction
  | case3 words length start positive inside held target names left ih =>
      rw [window?_eq fits, Option.some.injEq] at held
      subst held
      obtain ⟨targets, found, more⟩ := ih (by omega) tried_start
      exact ⟨target :: targets, by rw [found, Option.map_some],
        .first (tried.picks positive fits names) more⟩
  | case4 words length start positive inside held missed last ih =>
      rw [window?_eq fits, Option.some.injEq] at held
      subst held
      apply ih (by omega)
      intro span lies before
      have length := lies.length
      exact tried.missed fits positive missed lies (by omega)
  | case5 words length start positive inside held missed more ih =>
      rw [window?_eq fits, Option.some.injEq] at held
      subst held
      apply ih (by omega)
      intro span lies before
      exact tried.missed fits positive missed lies (by omega)

theorem search?_names (s : Scene) (words : List String) :
    s.search? words words.length 0 = some (s.targets words) ∧ s.Names words (s.targets words) := by
  obtain ⟨targets, found, names⟩ :=
    names_of_tried (s := s) (Nat.le_of_eq (Nat.zero_add words.length)) tried_start
  have same : s.targets words = targets := by rw [Scene.targets, found, Option.getD_some]
  rw [same]
  exact ⟨found, names⟩

/-- What words name by the rule are their targets. -/
theorem Names.targets_eq {targets : List String} (names : s.Names words targets) :
    s.targets words = targets :=
  (s.search?_names words).2.unique names

theorem names_nil (s : Scene) : s.Names [] [] := by
  refine .nothing ?_
  intro span lies
  have length := lies.length
  have positive := lies.positive
  rw [List.length_nil] at length
  omega

theorem targets_nil (s : Scene) : s.targets [] = [] := s.names_nil.targets_eq

/-- Words that name a target together name no other one. -/
theorem names_of_whole (nonempty : words ≠ []) {target : String}
    (names : s.target? words = some target) : s.Names words [target] := by
  have picks : s.Picks words ⟨[], words, []⟩ target := by
    refine ⟨⟨nonempty, by simp⟩, names, ?_⟩
    intro other lies _
    have length := lies.length
    simp only [Span.Leads, List.length_nil]
    omega
  exact .first picks s.names_nil

theorem targets_of_whole (nonempty : words ≠ []) {target : String}
    (names : s.target? words = some target) : s.targets words = [target] :=
  (names_of_whole nonempty names).targets_eq

theorem targets_word (s : Scene) (word : String) :
    s.targets [word] = (s.target? [word]).toList := by
  cases names : s.target? [word] with
  | some target => exact targets_of_whole (List.cons_ne_nil word []) names
  | none =>
      apply (Names.nothing ?_).targets_eq
      intro span lies
      have length := lies.length
      have positive := lies.positive
      rw [List.length_singleton] at length
      have whole : span = ⟨[], [word], []⟩ := by
        apply lies.eq ⟨List.cons_ne_nil word [], rfl⟩
        · rw [List.length_nil]
          omega
        · rw [List.length_singleton]
          omega
      rw [whole]
      exact names

/-- A search comes to an end, and no window of it reaches beyond the words.  It finds exactly what
the words name by the rule: nothing if no span names a target, and else the target of the longest
span that does, the leftmost of these, before what the other words name without it. -/
theorem longest_spans_are_taken (s : Scene) (words : List String) :
    s.search? words words.length 0 = some (s.targets words) ∧
      ∀ targets, s.Names words targets ↔ targets = s.targets words := by
  obtain ⟨found, names⟩ := s.search?_names words
  refine ⟨found, fun targets => ⟨fun also => also.unique names, ?_⟩⟩
  rintro rfl
  exact names

end Scene

end TextAdventure
