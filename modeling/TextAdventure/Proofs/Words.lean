import TextAdventure.Text.Blank

/-!
# The words of a line

Splitting a text at its stops takes an append apart at a stop.  Words joined by single spaces are
the words of the line they make (`words_intercalate`), and such a line has no blank at either end
(`trim_intercalate`).
-/

set_option autoImplicit false

namespace TextAdventure.Text

/-! ## Runs -/

theorem runsAfter_append_stop {stops : Char → Bool} {c : Char} (stop : stops c = true)
    (letters text rest : List Char) :
    runsAfter stops letters (text ++ c :: rest) =
      runsAfter stops letters text ++ runsAfter stops [] rest := by
  induction text generalizing letters with
  | nil => simp [runsAfter, stop]
  | cons letter text ih =>
      by_cases ends : stops letter = true
      · simp [runsAfter, ends, ih]
      · simp [runsAfter, ends, ih]

theorem runsAfter_of_none {stops : Char → Bool} {text : List Char}
    (none_ : ∀ c ∈ text, stops c = false) (letters : List Char) :
    runsAfter stops letters text = closeRun (text.reverse ++ letters) := by
  induction text generalizing letters with
  | nil => rfl
  | cons letter text ih =>
      have first : stops letter = false := none_ letter (by simp)
      simp [runsAfter, first, ih fun c member => none_ c (by simp [member])]

/-- A text without stops is its only run. -/
theorem runsAfter_self {stops : Char → Bool} {s : String} (nonempty : s.toList ≠ [])
    (none_ : ∀ c ∈ s.toList, stops c = false) : runsAfter stops [] s.toList = [s] := by
  rw [runsAfter_of_none none_]
  cases reversed : s.toList.reverse with
  | nil => exact absurd (List.reverse_eq_nil_iff.mp reversed) nonempty
  | cons c rest =>
      have back : rest.reverse ++ [c] = s.toList := by
        rw [← List.reverse_cons, ← reversed, List.reverse_reverse]
      simp [closeRun, back]

/-! ## Words -/

structure IsWord (w : String) : Prop where
  nonempty : w.toList ≠ []
  letters : ∀ c ∈ w.toList, isBlank c = false

theorem isWord_iff {w : String} :
    (!w.toList.isEmpty && w.toList.all (!isBlank ·)) = true ↔ IsWord w := by
  simp only [Bool.and_eq_true, Bool.not_eq_true', List.isEmpty_eq_false_iff, List.all_eq_true]
  constructor
  · exact fun ⟨nonempty, letters⟩ => ⟨nonempty, letters⟩
  · exact fun ⟨nonempty, letters⟩ => ⟨nonempty, letters⟩

instance (w : String) : Decidable (IsWord w) := decidable_of_iff _ isWord_iff

theorem toList_line (w next : String) (rest : List String) :
    (" ".intercalate (w :: next :: rest)).toList =
      w.toList ++ ' ' :: (" ".intercalate (next :: rest)).toList := by
  simp [String.intercalate_cons_cons]

theorem isWord_of_mem_closeRun {letters : List Char} (kept : ∀ c ∈ letters, isBlank c = false) :
    ∀ w ∈ closeRun letters, IsWord w := by
  intro w member
  cases letters with
  | nil => exact absurd member List.not_mem_nil
  | cons c rest =>
      rw [List.mem_singleton.mp member]
      exact ⟨by simp, by simpa [or_imp, forall_and, and_comm] using kept⟩

theorem isWord_of_mem_runsAfter {letters text : List Char}
    (kept : ∀ c ∈ letters, isBlank c = false) :
    ∀ w ∈ runsAfter isBlank letters text, IsWord w := by
  induction text generalizing letters with
  | nil => exact isWord_of_mem_closeRun kept
  | cons c rest ih =>
      intro w member
      by_cases ends : isBlank c = true
      · rw [runsAfter, if_pos ends, List.mem_append] at member
        rcases member with closed | later
        · exact isWord_of_mem_closeRun kept w closed
        · exact ih (by simp) w later
      · rw [runsAfter, if_neg ends] at member
        exact ih (by simpa [ends] using kept) w member

theorem isWord_of_mem_words {line : String} : ∀ w ∈ words line, IsWord w :=
  isWord_of_mem_runsAfter (by simp)

theorem words_append (line more : String) :
    words (line ++ " " ++ more) = words line ++ words more := by
  have joined : (line ++ " " ++ more).toList = line.toList ++ ' ' :: more.toList := by simp
  rw [words, joined, runsAfter_append_stop (by decide)]
  rfl

theorem words_intercalate {ws : List String} (each : ∀ w ∈ ws, IsWord w) :
    words (" ".intercalate ws) = ws := by
  induction ws with
  | nil => rfl
  | cons w rest ih =>
      have word : IsWord w := each w (by simp)
      have alone : runsAfter isBlank [] w.toList = [w] := runsAfter_self word.nonempty word.letters
      cases rest with
      | nil => simpa [words] using alone
      | cons next rest =>
          have others := ih fun other member => each other (by simp [member])
          rw [words, toList_line, runsAfter_append_stop (by decide), alone]
          rw [words] at others
          rw [others]
          rfl

/-! ## Trimming -/

/-- Texts with no blank at either end. -/
structure Tight (s : String) : Prop where
  first : ∃ c, s.toList.head? = some c ∧ isBlank c = false
  last : ∃ c, s.toList.getLast? = some c ∧ isBlank c = false

theorem dropWhile_of_head? {α : Type} {p : α → Bool} {l : List α} {a : α}
    (first : l.head? = some a) (kept : p a = false) : l.dropWhile p = l := by
  obtain ⟨rest, rfl⟩ := List.head?_eq_some_iff.mp first
  exact List.dropWhile_cons_of_neg (by simp [kept])

theorem trim_of_tight {s : String} (tight : Tight s) : trim s = s := by
  obtain ⟨a, first, keptFirst⟩ := tight.first
  obtain ⟨b, last, keptLast⟩ := tight.last
  have back : s.toList.reverse.head? = some b := by rw [List.head?_reverse, last]
  rw [trim, dropTail, dropWhile_of_head? first keptFirst, dropWhile_of_head? back keptLast,
    List.reverse_reverse, String.ofList_toList]

theorem IsWord.tight {w : String} (word : IsWord w) : Tight w := by
  refine ⟨?first, ?last⟩
  case first =>
    obtain ⟨c, rest, letters⟩ := List.exists_cons_of_ne_nil word.nonempty
    exact ⟨c, by simp [letters], word.letters c (by simp [letters])⟩
  case last =>
    have final := List.getLast?_eq_some_getLast word.nonempty
    exact ⟨_, final, word.letters _ (List.getLast_mem word.nonempty)⟩

theorem tight_intercalate {ws : List String} (each : ∀ w ∈ ws, IsWord w) (nonempty : ws ≠ []) :
    Tight (" ".intercalate ws) := by
  induction ws with
  | nil => contradiction
  | cons w rest ih =>
      have word : Tight w := (each w (by simp)).tight
      cases rest with
      | nil => simpa only [String.intercalate_singleton] using word
      | cons next rest =>
          have others := ih (fun other member => each other (by simp [member])) (by simp)
          obtain ⟨a, first, keptFirst⟩ := word.first
          obtain ⟨b, last, keptLast⟩ := others.last
          refine ⟨⟨a, ?_, keptFirst⟩, ⟨b, ?_, keptLast⟩⟩
          · rw [toList_line, List.head?_append, first]
            rfl
          · rw [toList_line, List.getLast?_append, List.getLast?_cons, last]
            rfl

theorem intercalate_ne_empty {ws : List String} (each : ∀ w ∈ ws, IsWord w) (nonempty : ws ≠ []) :
    " ".intercalate ws ≠ "" := by
  intro empty
  obtain ⟨c, first, _⟩ := (tight_intercalate each nonempty).first
  rw [empty] at first
  contradiction

theorem trim_intercalate {ws : List String} (each : ∀ w ∈ ws, IsWord w) :
    trim (" ".intercalate ws) = " ".intercalate ws := by
  cases ws with
  | nil => rfl
  | cons w rest => exact trim_of_tight (tight_intercalate each (by simp))

end TextAdventure.Text
