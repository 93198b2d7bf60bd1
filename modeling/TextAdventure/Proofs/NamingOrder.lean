import Mathlib.Data.List.Infix
import TextAdventure.Proofs.LongestSpans
import TextAdventure.Proofs.Pairing

/-!
# The order in which targets are named

Targets come in the order in which a search takes their spans out, and not in that of the words: of
two spans that stand in the line as they are, the longer one comes first, and the left one of two
that are equally long.  A span that is taken out late may be made of words that stood apart, with
only words of earlier spans between them.
-/

set_option autoImplicit false

namespace TextAdventure

/-- Words of a line, each with its place. -/
abbrev Phrase := List (String × Nat)

namespace Phrase

def words (phrase : Phrase) : List String := phrase.map (·.1)

/-- The places go up from word to word. -/
def Numbered (phrase : Phrase) : Prop := phrase.Pairwise (·.2 < ·.2)

/-- All words of the one stand before all words of the other. -/
def LeftOf (phrase other : Phrase) : Prop := ∀ a ∈ phrase, ∀ b ∈ other, a.2 < b.2

instance (phrase other : Phrase) : Decidable (phrase.LeftOf other) :=
  inferInstanceAs (Decidable (∀ a ∈ phrase, ∀ b ∈ other, a.2 < b.2))

/-- A phrase is longer than another one, or as long and left of it. -/
def Precedes (phrase other : Phrase) : Prop :=
  other.length < phrase.length ∨ other.length = phrase.length ∧ phrase.LeftOf other

/-- The words that are left without those of some phrases. -/
def without (phrase : Phrase) (taken : List Phrase) : Phrase :=
  phrase.filter fun word => taken.all fun other => !other.contains word

theorem numbered_zipIdx (line : List String) : Numbered line.zipIdx := by
  have places : (line.zipIdx.map (·.2)).Pairwise (· < ·) := by
    rw [List.zipIdx_map_snd]
    exact List.pairwise_lt_range' 1
  exact List.pairwise_map.mp places

section Parts

variable {before inside after : Phrase} (numbered : Numbered (before ++ inside ++ after))

include numbered

theorem Numbered.apart : inside.Disjoint (before ++ after) := by
  obtain ⟨start, _, late⟩ := List.pairwise_append.mp numbered
  obtain ⟨_, _, early⟩ := List.pairwise_append.mp start
  intro word held other
  rcases List.mem_append.mp other with first | last
  · exact absurd (early word first word held) (Nat.lt_irrefl _)
  · exact absurd (late word (List.mem_append_right _ held) word last) (Nat.lt_irrefl _)

theorem Numbered.rest : Numbered (before ++ after) := by
  refine List.Pairwise.sublist ?_ numbered
  rw [List.append_assoc]
  exact (List.sublist_append_right inside after).append_left before

/-- Without a part that stands together, the line is what stands before and after it. -/
theorem Numbered.filter_notMem :
    (before ++ inside ++ after).filter (fun word => !inside.contains word) = before ++ after := by
  have apart := numbered.apart
  have gone : inside.filter (fun word => !inside.contains word) = [] := by simp
  have kept : (before ++ after).filter (fun word => !inside.contains word) = before ++ after := by
    apply List.filter_eq_self.mpr
    intro word other
    simpa using fun held => apart held other
  rw [← kept, List.filter_append, List.filter_append, gone, List.append_nil, List.filter_append]

theorem Numbered.without_cons (taken : List Phrase) :
    without (before ++ inside ++ after) (inside :: taken) = without (before ++ after) taken := by
  rw [without, without, ← numbered.filter_notMem, List.filter_filter]
  apply List.filter_congr
  intro word _
  rw [List.all_cons, Bool.and_comm]

/-- A phrase without words of a part still stands together when that part is taken out. -/
theorem Numbered.infix_rest {phrase : Phrase} (kept : phrase ⊆ before ++ after)
    (stands : phrase <:+: before ++ inside ++ after) : phrase <:+: before ++ after := by
  have same : phrase.filter (fun word => !inside.contains word) = phrase := by
    apply List.filter_eq_self.mpr
    intro word held
    simpa using fun other => numbered.apart other (kept held)
  rw [← same, ← numbered.filter_notMem]
  exact stands.filter _

/-- Of two parts that share no word, the one that does not start further right stands left of the
other. -/
theorem Numbered.leftOf {earlier other later : Phrase}
    (same : before ++ inside ++ after = earlier ++ other ++ later)
    (starts : before.length ≤ earlier.length) (nonempty : other ≠ [])
    (apart : inside.Disjoint other) : inside.LeftOf other := by
  have skipped : ∃ between, earlier = before ++ between ∧
      inside ++ after = between ++ (other ++ later) := by
    rw [List.append_assoc, List.append_assoc, List.append_eq_append_iff] at same
    rcases same with found | ⟨between, longer, rest⟩
    · exact found
    · have empty : between = [] := by
        rw [longer, List.length_append] at starts
        exact List.length_eq_zero_iff.mp (by omega)
      subst empty
      exact ⟨[], by simpa using longer.symm, by simpa using rest.symm⟩
  obtain ⟨between, _, same⟩ := skipped
  have behind : ∃ gap, after = gap ++ (other ++ later) := by
    rcases List.append_eq_append_iff.mp same with ⟨gap, _, rest⟩ | ⟨shared, held, rest⟩
    · exact ⟨gap, rest⟩
    · cases shared with
      | nil => exact ⟨[], by simpa using rest.symm⟩
      | cons word more =>
          -- The other part would start with a word of this one.
          obtain ⟨first, others, rfl⟩ := List.exists_cons_of_ne_nil nonempty
          obtain ⟨rfl, _⟩ := List.cons.inj rest
          exact absurd List.mem_cons_self (apart (by simp [held]))
  obtain ⟨gap, rfl⟩ := behind
  obtain ⟨_, _, late⟩ := List.pairwise_append.mp numbered
  intro a held b listed
  exact late a (List.mem_append_right _ held) b (by simp [listed])

end Parts

end Phrase

namespace Scene

/-- The spans of a line that name these targets, in their order.  Each stands together once the
words of the spans before it are taken out, and no word belongs to two of them.  One that stands
together in the line itself is preceded by each span before it. -/
structure NamedBy (s : Scene) (line : Phrase) (targets : List String) (spans : List Phrase) :
    Prop where
  names : List.Forall₂ (fun (span : Phrase) target => s.target? span.words = some target) spans
    targets
  nonempty : ∀ span ∈ spans, span ≠ []
  together : ∀ earlier span later, spans = earlier ++ span :: later →
    span <:+: line.without earlier
  disjoint : spans.Pairwise List.Disjoint
  ordered : spans.Pairwise fun first second : Phrase => second <:+: line → first.Precedes second

variable {s : Scene}

theorem NamedBy.subset {line : Phrase} {targets : List String} {spans : List Phrase}
    (named : s.NamedBy line targets spans) {span : Phrase} (listed : span ∈ spans) :
    span ⊆ line := by
  obtain ⟨earlier, later, split⟩ := List.append_of_mem listed
  exact fun word held => List.mem_of_mem_filter ((named.together _ _ _ split).subset held)

theorem exists_target {spans : List Phrase} {targets : List String}
    (names : List.Forall₂ (fun (span : Phrase) target => s.target? span.words = some target) spans
      targets)
    {span : Phrase} (listed : span ∈ spans) : s.target? span.words ≠ none := by
  induction names with
  | nil => exact absurd listed List.not_mem_nil
  | cons found _ ih =>
      rcases List.mem_cons.mp listed with rfl | later
      · simp [found]
      · exact ih later

section First

variable {before inside after : Phrase} (numbered : Phrase.Numbered (before ++ inside ++ after))
  {target : String}
  (picks : s.Picks (Phrase.words (before ++ inside ++ after))
    ⟨before.words, inside.words, after.words⟩ target)

include numbered picks

/-- The span that is taken out first precedes each other one that was there to be taken. -/
theorem Picks.precedes {span : Phrase} (nonempty : span ≠ []) (apart : inside.Disjoint span)
    (named : s.target? span.words ≠ none) (stands : span <:+: before ++ inside ++ after) :
    inside.Precedes span := by
  obtain ⟨earlier, later, whole⟩ := stands
  have lies : (Span.mk (Phrase.words earlier) span.words (Phrase.words later)).LiesIn
      (Phrase.words (before ++ inside ++ after)) := by
    refine ⟨by simpa [Phrase.words] using nonempty, ?_⟩
    rw [← whole]
    simp [Phrase.words]
  have leads := picks.leads _ lies named
  simp only [Span.Leads, Phrase.words, List.length_map] at leads
  rcases leads with shorter | ⟨length, starts⟩
  · exact Or.inl shorter
  · exact Or.inr ⟨length, numbered.leftOf whole.symm starts nonempty apart⟩

/-- The span that is taken out first comes before those that are found without it. -/
theorem NamedBy.first {targets : List String} {spans : List Phrase}
    (more : s.NamedBy (before ++ after) targets spans) :
    s.NamedBy (before ++ inside ++ after) (target :: targets) (inside :: spans) where
  names := .cons picks.names more.names
  nonempty := by
    intro span listed
    rcases List.mem_cons.mp listed with rfl | later
    · intro empty
      exact picks.lies.nonempty (by simp [empty, Phrase.words])
    · exact more.nonempty span later
  together := by
    intro earlier span later split
    cases earlier with
    | nil =>
        obtain ⟨rfl, _⟩ := List.cons.inj split
        exact ⟨before, after, by simp [Phrase.without]⟩
    | cons first earlier =>
        obtain ⟨rfl, rest⟩ := List.cons.inj split
        rw [numbered.without_cons]
        exact more.together earlier span later rest
  disjoint := by
    refine List.pairwise_cons.mpr ⟨?_, more.disjoint⟩
    intro span listed word held other
    exact numbered.apart held (more.subset listed other)
  ordered := by
    refine List.pairwise_cons.mpr ⟨?_, ?_⟩
    · intro span listed stands
      have apart : inside.Disjoint span := fun word held other =>
        numbered.apart held (more.subset listed other)
      have named := exists_target more.names listed
      exact picks.precedes numbered (more.nonempty span listed) apart named stands
    · refine more.ordered.imp_of_mem ?_
      intro first second _ listed ordered stands
      exact ordered (numbered.infix_rest (more.subset listed) stands)

end First

theorem Names.namedBy {words targets : List String} (names : s.Names words targets) {line : Phrase}
    (spelled : line.words = words) (numbered : line.Numbered) :
    ∃ spans, s.NamedBy line targets spans := by
  induction names generalizing line with
  | nothing unnamed =>
      refine ⟨[], .nil, ?_, ?_, .nil, .nil⟩
      · exact fun _ listed => absurd listed List.not_mem_nil
      · exact fun _ _ _ split => absurd split.symm (by simp)
  | @first words targets span target picks more ih =>
      have split : line.words = span.before ++ span.inside ++ span.after :=
        spelled.trans picks.lies.whole.symm
      obtain ⟨start, after, rfl, start_words, after_words⟩ := List.map_eq_append_iff.mp split
      obtain ⟨before, inside, rfl, before_words, inside_words⟩ :=
        List.map_eq_append_iff.mp start_words
      have parts : span = ⟨Phrase.words before, Phrase.words inside, Phrase.words after⟩ := by
        rw [Phrase.words, Phrase.words, Phrase.words, before_words, inside_words, after_words]
      have rest : Phrase.words (before ++ after) = span.rest := by
        rw [parts, Span.rest, Phrase.words, List.map_append]
        rfl
      obtain ⟨spans, named⟩ := ih rest numbered.rest
      rw [← spelled, parts] at picks
      exact ⟨inside :: spans, NamedBy.first numbered picks named⟩

/-! ## Two targets -/

/-- No span that has words of both parts of a line names anything. -/
def Separates (s : Scene) (x y : List String) : Prop :=
  ∀ last start, last <:+ x → start <+: y → last ≠ [] → start ≠ [] →
    s.target? (last ++ start) = none

theorem separates_iff (s : Scene) (x y : List String) :
    s.Separates x y ↔ ∀ last ∈ x.tails, ∀ start ∈ y.inits, last ≠ [] → start ≠ [] →
      s.target? (last ++ start) = none := by
  simp only [List.mem_tails, List.mem_inits]
  exact ⟨fun apart last ends start starts => apart last start ends starts,
    fun apart last start ends starts => apart last ends start starts⟩

instance (s : Scene) (x y : List String) : Decidable (s.Separates x y) :=
  decidable_of_iff _ (s.separates_iff x y).symm

section Two

variable {x y : List String} (apart : s.Separates x y)

include apart

/-- A span that names something lies in one of the two parts. -/
theorem Separates.within {span : Span} (lies : span.LiesIn (x ++ y))
    (names : s.target? span.inside ≠ none) :
    span.before.length + span.inside.length ≤ x.length ∨ x.length ≤ span.before.length := by
  by_contra across
  obtain ⟨ends, starts⟩ := not_or.mp across
  have whole := lies.whole
  rw [List.append_assoc, List.append_eq_append_iff] at whole
  rcases whole with ⟨last, left, right⟩ | ⟨_, left, _⟩
  · have reaches : last.length < span.inside.length := by
      rw [left, List.length_append] at ends
      omega
    rcases List.append_eq_append_iff.mp right with ⟨_, short, _⟩ | ⟨start, inside, rest⟩
    · rw [short, List.length_append] at reaches
      omega
    · apply names
      rw [inside]
      apply apart last start ⟨span.before, left.symm⟩ ⟨span.after, rest.symm⟩
      · rintro rfl
        rw [left, List.append_nil] at starts
        exact starts (Nat.le_refl _)
      · rintro rfl
        rw [inside, List.append_nil] at reaches
        exact Nat.lt_irrefl _ reaches
  · rw [left, List.length_append] at starts
    omega

theorem Separates.targets {front back : String} (front_nonempty : x ≠ [])
    (back_nonempty : y ≠ []) (front_names : s.target? x = some front)
    (back_names : s.target? y = some back) :
    s.targets (x ++ y) = if y.length ≤ x.length then [front, back] else [back, front] := by
  split
  · rename_i shorter
    have picks : s.Picks (x ++ y) ⟨[], x, y⟩ front := by
      refine ⟨⟨front_nonempty, by simp⟩, front_names, ?_⟩
      intro other lies names
      have length := lies.length
      have place := apart.within lies names
      rw [List.length_append] at length
      simp only [Span.Leads, List.length_nil]
      omega
    have rest : s.Names y [back] := names_of_whole back_nonempty back_names
    exact (Names.first picks rest).targets_eq
  · rename_i longer
    have picks : s.Picks (x ++ y) ⟨x, y, []⟩ back := by
      refine ⟨⟨back_nonempty, by simp⟩, back_names, ?_⟩
      intro other lies names
      have length := lies.length
      have place := apart.within lies names
      rw [List.length_append] at length
      simp only [Span.Leads]
      omega
    have rest : s.Names (x ++ []) [front] := by
      rw [List.append_nil]
      exact names_of_whole front_nonempty front_names
    exact (Names.first picks rest).targets_eq

end Two

/-- The targets of words are named by spans of which no two share a word.  Each stands together once
the spans before it are taken out, and of two that stand together in the line the longer one comes
first, or the left one if they are equally long.  So of two phrases one after the other, with
nothing named across them, the first one is named first unless it is the shorter one; and of two
things that can be used together it is the one named first that gives the message and what is
made. -/
theorem longer_spans_are_named_first (s : Scene) (words : List String) :
    (∃ spans, s.NamedBy words.zipIdx (s.targets words) spans) ∧
      (∀ x y front back, words = x ++ y → s.Separates x y → x ≠ [] → y ≠ [] →
        s.target? x = some front → s.target? y = some back →
        s.targets words = if y.length ≤ x.length then [front, back] else [back, front]) ∧
      ∀ target other more first second i j, s.targets words = target :: other :: more →
        s.world.CanPair target first i → s.world.CanPair other second j →
        s.world.use (s.targets words) = s.world.performPair first.name second.name i j := by
  refine ⟨?spans, ?order, ?use⟩
  case spans =>
      exact (s.search?_names words).2.namedBy (List.zipIdx_map_fst 0 words)
        (Phrase.numbered_zipIdx words)
  case order =>
      rintro x y front back rfl apart front_nonempty back_nonempty front_names back_names
      exact apart.targets front_nonempty back_nonempty front_names back_names
  case use =>
      intro target other more first second i j named can canOther
      rw [named]
      exact World.use_of_canPair can canOther

end Scene

namespace PickleQuest

def forkAndJarScene : Scene := (forkAndJar.reader true).scene

/-- The jar is named first, before the fork and after it, and so gives the message. -/
theorem jar_is_named_first_either_way :
    forkAndJarScene.Separates ["fork"] ["pickle", "jar"] ∧
      forkAndJarScene.Separates ["pickle", "jar"] ["fork"] ∧
      forkAndJarScene.targets ["fork", "pickle", "jar"] = ["pickle jar", "fork"] ∧
      forkAndJarScene.targets ["pickle", "jar", "fork"] = ["pickle jar", "fork"] ∧
      ∃ first second i j, forkAndJarScene.world.CanPair "pickle jar" first i ∧
        forkAndJarScene.world.CanPair "fork" second j ∧
        forkAndJarScene.world.use (forkAndJarScene.targets ["fork", "pickle", "jar"]) =
          forkAndJarScene.world.performPair first.name second.name i j := by
  have known : forkAndJarScene.Separates ["fork"] ["pickle", "jar"] ∧
      forkAndJarScene.Separates ["pickle", "jar"] ["fork"] ∧
      forkAndJarScene.target? ["fork"] = some "fork" ∧
      forkAndJarScene.target? ["pickle", "jar"] = some "pickle jar" ∧
      (forkAndJarScene.world.use ["pickle jar", "fork"]).response.status = .success := by
    decide +kernel
  obtain ⟨forkApart, jarApart, fork, jar, success⟩ := known
  obtain ⟨_, order, use⟩ := forkAndJarScene.longer_spans_are_named_first ["fork", "pickle", "jar"]
  have named : forkAndJarScene.targets ["fork", "pickle", "jar"] = ["pickle jar", "fork"] :=
    order ["fork"] ["pickle", "jar"] "fork" "pickle jar" rfl forkApart (by decide) (by decide) fork
      jar
  obtain ⟨first, second, i, j, can, canOther⟩ := World.use_success_iff.mp success
  refine ⟨forkApart, jarApart, named, ?_, first, second, i, j, can, canOther, ?_⟩
  · exact (forkAndJarScene.longer_spans_are_named_first ["pickle", "jar", "fork"]).2.1
      ["pickle", "jar"] ["fork"] "pickle jar" "fork" rfl jarApart (by decide) (by decide) jar fork
  · exact use "pickle jar" "fork" [] first second i j named can canOther

/-- The parts of a line whose words stand together. -/
def parts {α : Type} (line : List α) : List (List α) := line.tails.flatMap List.inits

theorem mem_parts {α : Type} {line part : List α} (stands : part <:+: line) :
    part ∈ parts line := by
  obtain ⟨tail, starts, ends⟩ := List.infix_iff_prefix_suffix.mp stands
  exact List.mem_flatMap.mpr ⟨tail, (List.mem_tails _ _).mpr ends, (List.mem_inits _ _).mpr starts⟩

/-- The fork is used with the jar, and the jar is the first target; so the targets do not come in
the order of the words.  Nor need their words stand together: a room is named around another one. -/
theorem targets_are_out_of_order :
    (¬ ∃ spans : List Phrase,
      List.Forall₂ (fun (span : Phrase) target => forkAndJarScene.target? span.words = some target)
          spans (forkAndJarScene.targets ["fork", "pickle", "jar"]) ∧
        (∀ span ∈ spans, span <:+: ["fork", "pickle", "jar"].zipIdx) ∧
        spans.Pairwise Phrase.LeftOf) ∧
    forkAndJarScene.targets ["living", "kitchen", "room"] = ["kitchen", "living room"] ∧
      ∀ span, span <:+: ["living", "kitchen", "room"] →
        forkAndJarScene.target? span ≠ some "living room" := by
  have known : forkAndJarScene.targets ["fork", "pickle", "jar"] = ["pickle jar", "fork"] ∧
      (∀ jar ∈ parts ["fork", "pickle", "jar"].zipIdx,
        ∀ fork ∈ parts ["fork", "pickle", "jar"].zipIdx,
          forkAndJarScene.target? (Phrase.words jar) = some "pickle jar" →
          forkAndJarScene.target? (Phrase.words fork) = some "fork" → ¬ Phrase.LeftOf jar fork) ∧
      forkAndJarScene.targets ["living", "kitchen", "room"] = ["kitchen", "living room"] ∧
      ∀ span ∈ parts ["living", "kitchen", "room"],
        forkAndJarScene.target? span ≠ some "living room" := by
    decide +kernel
  obtain ⟨named, tried, around, apart⟩ := known
  refine ⟨?_, around, fun span stands => apart span (mem_parts stands)⟩
  rintro ⟨spans, names, stand, ordered⟩
  rw [named] at names
  cases names with
  | @cons jar _ _ _ jarNames names =>
      cases names with
      | @cons fork _ _ _ forkNames _ =>
          have jarPart := mem_parts (stand jar List.mem_cons_self)
          have forkPart := mem_parts (stand fork (List.mem_cons_of_mem _ List.mem_cons_self))
          have left := (List.pairwise_cons.mp ordered).1 fork List.mem_cons_self
          exact tried jar jarPart fork forkPart jarNames forkNames left

end PickleQuest

end TextAdventure
