import TextAdventure.Proofs.Words
import TextAdventure.Text.Case

/-!
# Lower case is final

The lower form of a character is its own lower form (`lowerChar_of_mem`), which is a property of
the case tables: no run lists a form that a run gives.  So a text that is lowered twice is lowered
once (`lower_lower`).

What a capital sigma becomes depends on the letters around it, but no further than the next space:
words joined by spaces are lowered one by one (`lower_intercalate`).
-/

set_option autoImplicit false

namespace TextAdventure.Text

/-! ## The runs of the table -/

namespace CaseRun

def lowest (run : CaseRun) : Nat := (run.first + run.shift).toNat

def highest (run : CaseRun) : Nat := (run.last + run.shift).toNat

/-- Whether all forms of the run lie outside a range. -/
def clears (run : CaseRun) (range : Nat × Nat) : Bool :=
  run.highest.blt range.1 || range.2.blt run.lowest

/-- Whether no form of `run` is listed by `other`: all lie outside it or, where it lists every
second code point, all lie between those. -/
def avoids (run other : CaseRun) : Bool :=
  run.clears (other.first, other.last) ||
    (other.step == 2 && (run.step == 2 || run.first == run.last) &&
      (run.lowest + other.first) % 2 == 1)

theorem form?_eq {run : CaseRun} {n m : Nat} (formed : run.form? n = some m) :
    run.first ≤ n ∧ n ≤ run.last ∧ (n - run.first) % run.step = 0 ∧
      m = ((n : Int) + run.shift).toNat := by
  unfold form? at formed
  split at formed
  case isTrue listed =>
    simp only [Bool.and_eq_true, decide_eq_true_eq, beq_iff_eq] at listed
    exact ⟨listed.1.1, listed.1.2, listed.2, (Option.some.inj formed).symm⟩
  case isFalse => contradiction

theorem form?_bounds {run : CaseRun} {n m : Nat} (formed : run.form? n = some m) :
    run.lowest ≤ m ∧ m ≤ run.highest := by
  obtain ⟨above, below, -, rfl⟩ := form?_eq formed
  unfold lowest highest
  omega

theorem not_between_of_clears {run : CaseRun} {range : Nat × Nat} {n m : Nat}
    (outside : run.clears range = true) (formed : run.form? n = some m) :
    ¬(range.1 ≤ m ∧ m ≤ range.2) := by
  have bounds := form?_bounds formed
  simp only [clears, Bool.or_eq_true, Nat.blt_eq] at outside
  omega

theorem form?_of_avoids {run other : CaseRun} {n m : Nat} (apart : run.avoids other = true)
    (positive : 0 < run.lowest) (formed : run.form? n = some m) : other.form? m = none := by
  cases listed : other.form? m with
  | none => rfl
  | some again =>
      exfalso
      obtain ⟨above, below, stepped, -⟩ := form?_eq listed
      simp only [avoids, Bool.or_eq_true, Bool.and_eq_true, beq_iff_eq] at apart
      rcases apart with outside | ⟨⟨double, steps⟩, odd⟩
      · exact not_between_of_clears outside formed ⟨above, below⟩
      · -- The forms of `run` have the parity of its lowest one, and `other` lists the other parity.
        obtain ⟨start, stop, places, rfl⟩ := form?_eq formed
        unfold lowest at odd positive
        rw [double] at stepped
        rcases steps with twos | single
        · rw [twos] at places
          omega
        · omega

end CaseRun

/-- Code points that are no lower form of a character beyond ASCII: all of ASCII but `k`, the
letter with a longer lower form, blanks, and what is no character. -/
def formless : Ranges :=
  [(0, 0x6A), (0x6C, 0xA0), (0x130, 0x130), (0x1680, 0x1680), (0x2000, 0x205F), (0x3000, 0x3000),
    (0xD800, 0xDFFF)]

theorem lookup_longLower {n : Nat} (other : n ≠ 0x130) : longLower.lookup n = none := by
  have differs : (n == 0x130) = false := by
    simp only [beq_eq_false_iff_ne]
    exact other
  simp [longLower, List.lookup_cons, differs]

theorem lowerRuns_apart :
    (lowerRuns.all fun run =>
      run.highest.blt 0x110000 && formless.all run.clears && lowerRuns.all run.avoids) = true := by
  decide +kernel

section Forms

variable {run : CaseRun} (listed : run ∈ lowerRuns) {n m : Nat} (formed : run.form? n = some m)

include listed formed

theorem not_formless : m < 0x110000 ∧ ∀ range ∈ formless, ¬(range.1 ≤ m ∧ m ≤ range.2) := by
  have apart := List.all_eq_true.mp lowerRuns_apart run listed
  simp only [Bool.and_eq_true, Nat.blt_eq] at apart
  refine ⟨?limit, ?outside⟩
  case limit => exact Nat.lt_of_le_of_lt (CaseRun.form?_bounds formed).2 apart.1.1
  case outside =>
    intro range member
    exact CaseRun.not_between_of_clears (List.all_eq_true.mp apart.1.2 range member) formed

theorem form_unlisted {other : CaseRun} (member : other ∈ lowerRuns) : other.form? m = none := by
  have apart := List.all_eq_true.mp lowerRuns_apart run listed
  simp only [Bool.and_eq_true, Nat.blt_eq] at apart
  have positive : 0 < run.lowest := by
    have outside := List.all_eq_true.mp apart.1.2 (0, 0x6A) (by simp [formless])
    have bounds := CaseRun.form?_bounds formed
    simp only [CaseRun.clears, Bool.or_eq_true, Nat.blt_eq] at outside
    omega
  exact CaseRun.form?_of_avoids (List.all_eq_true.mp apart.2 other member) positive formed

theorem form_toNat : (Char.ofNat m).toNat = m := by
  obtain ⟨limit, outside⟩ := not_formless listed formed
  have proper := outside (0xD800, 0xDFFF) (by simp [formless])
  have valid : m.isValidChar := by
    unfold Nat.isValidChar
    omega
  rw [Char.ofNat, dif_pos valid]
  rfl

theorem lowerChar_form : lowerChar (Char.ofNat m) = [Char.ofNat m] := by
  obtain ⟨-, outside⟩ := not_formless listed formed
  have point := form_toNat listed formed
  by_cases ascii : m < 0x80
  · have letter : m = 0x6B := by
      have above := outside (0, 0x6A) (by simp [formless])
      have below := outside (0x6C, 0xA0) (by simp [formless])
      omega
    rw [letter]
    decide
  · have short : longLower.lookup m = none := by
      have other := outside (0x130, 0x130) (by simp [formless])
      exact lookup_longLower (by omega)
    have unlisted : lowerRuns.findSome? (fun run => run.form? m) = none := by
      rw [List.findSome?_eq_none_iff]
      intro other member
      exact form_unlisted listed formed member
    simp [lowerChar, mapCase, point, ascii, short, unlisted]

theorem isBlank_form : isBlank (Char.ofNat m) = false := by
  obtain ⟨-, outside⟩ := not_formless listed formed
  simp [formless] at outside
  simp [isBlank, form_toNat listed formed]
  omega

end Forms

/-! ## Characters -/

theorem lowerChar_cases (c : Char) :
    lowerChar c = [c] ∨ c.toNat < 0x80 ∧ lowerChar c = [c.toLower] ∨
      lowerChar c = ['i', Char.ofNat 0x307] ∨
      ∃ run ∈ lowerRuns, ∃ n m, run.form? n = some m ∧ lowerChar c = [Char.ofNat m] := by
  by_cases ascii : c.toNat < 0x80
  · exact Or.inr (Or.inl ⟨ascii, by simp [lowerChar, ascii]⟩)
  · by_cases long : c.toNat = 0x130
    · right; right; left
      simp [lowerChar, mapCase, long, longLower]
    · have short := lookup_longLower long
      cases found : lowerRuns.findSome? fun run => run.form? c.toNat with
      | none =>
          left
          simp [lowerChar, mapCase, ascii, short, found]
      | some m =>
          right; right; right
          obtain ⟨run, listed, formed⟩ := List.exists_of_findSome?_eq_some found
          exact ⟨run, listed, c.toNat, m, formed, by
            simp [lowerChar, mapCase, ascii, short, found]⟩

/-- What holds of the ASCII characters one by one. -/
theorem forall_ascii {P : Char → Prop} (each : ∀ n < 0x80, P (Char.ofNat n)) (c : Char)
    (ascii : c.toNat < 0x80) : P c := by
  have holds := each c.toNat ascii
  rwa [Char.ofNat_toNat] at holds

theorem lowerChar_ascii : ∀ c : Char, c.toNat < 0x80 →
    lowerChar c.toLower = [c.toLower] ∧ (isBlank c = false → isBlank c.toLower = false) :=
  forall_ascii (by decide)

theorem lowerChar_ne_nil (c : Char) : lowerChar c ≠ [] := by
  rcases lowerChar_cases c with same | ⟨-, ascii⟩ | long | ⟨_, _, _, _, _, lowered⟩
  · simp [same]
  · simp [ascii]
  · simp [long]
  · simp [lowered]

theorem mem_lowerChar {c d : Char} (member : d ∈ lowerChar c) :
    d = c ∧ lowerChar c = [c] ∨ c.toNat < 0x80 ∧ d = c.toLower ∨ d = 'i' ∨ d = Char.ofNat 0x307 ∨
      ∃ run ∈ lowerRuns, ∃ n m, run.form? n = some m ∧ d = Char.ofNat m := by
  rcases lowerChar_cases c with
    same | ⟨ascii, lowered⟩ | long | ⟨run, listed, n, m, formed, lowered⟩
  · rw [same, List.mem_singleton] at member
    exact Or.inl ⟨member, same⟩
  · rw [lowered, List.mem_singleton] at member
    exact Or.inr (Or.inl ⟨ascii, member⟩)
  · rw [long] at member
    simp only [List.mem_cons, List.not_mem_nil, or_false] at member
    rcases member with letter | dot
    · exact Or.inr (Or.inr (Or.inl letter))
    · exact Or.inr (Or.inr (Or.inr (Or.inl dot)))
  · rw [lowered, List.mem_singleton] at member
    exact Or.inr (Or.inr (Or.inr (Or.inr ⟨run, listed, n, m, formed, member⟩)))

theorem lowerChar_of_mem {c d : Char} (member : d ∈ lowerChar c) : lowerChar d = [d] := by
  rcases mem_lowerChar member with
    ⟨rfl, same⟩ | ⟨ascii, rfl⟩ | rfl | rfl | ⟨run, listed, n, m, formed, rfl⟩
  · exact same
  · exact (lowerChar_ascii c ascii).1
  · decide
  · decide +kernel
  · exact lowerChar_form listed formed

theorem isBlank_of_mem_lowerChar {c d : Char} (letter : isBlank c = false)
    (member : d ∈ lowerChar c) : isBlank d = false := by
  rcases mem_lowerChar member with
    ⟨rfl, -⟩ | ⟨ascii, rfl⟩ | rfl | rfl | ⟨run, listed, n, m, formed, rfl⟩
  · exact letter
  · exact (lowerChar_ascii c ascii).2 letter
  · decide
  · decide
  · exact isBlank_form listed formed

/-! ## Texts -/

theorem lowerSigma_cases (before after : List Char) :
    lowerSigma before after = 'ς' ∨ lowerSigma before after = 'σ' := by
  unfold lowerSigma
  split
  · exact Or.inl rfl
  · exact Or.inr rfl

/-- What a character becomes in a text. -/
theorem mem_lowerAfter {before text : List Char} {d : Char} (member : d ∈ lowerAfter before text) :
    ∃ c ∈ text, d ∈ lowerChar c ∨ d = 'ς' ∨ d = 'σ' := by
  induction text generalizing before with
  | nil => simp [lowerAfter] at member
  | cons c rest ih =>
      rw [lowerAfter, List.mem_append] at member
      rcases member with first | later
      · refine ⟨c, by simp, ?_⟩
        split at first
        case isTrue =>
          rw [List.mem_singleton] at first
          rw [first]
          exact Or.inr (lowerSigma_cases before rest)
        case isFalse => exact Or.inl first
      · obtain ⟨other, found, form⟩ := ih later
        exact ⟨other, by simp [found], form⟩

theorem lowerAfter_of_lower {before text : List Char} (low : ∀ c ∈ text, lowerChar c = [c]) :
    lowerAfter before text = text := by
  induction text generalizing before with
  | nil => rfl
  | cons c rest ih =>
      have first : lowerChar c = [c] := low c (by simp)
      have noSigma : c ≠ 'Σ' := by
        rintro rfl
        exact absurd first (by decide +kernel)
      rw [lowerAfter, if_neg noSigma, first, ih fun other member => low other (by simp [member])]
      rfl

theorem lowerAfter_lowerAfter (before others text : List Char) :
    lowerAfter others (lowerAfter before text) = lowerAfter before text := by
  apply lowerAfter_of_lower
  intro d member
  obtain ⟨c, -, form | rfl | rfl⟩ := mem_lowerAfter member
  · exact lowerChar_of_mem form
  · decide +kernel
  · decide +kernel

theorem lowerAfter_ne_nil {before text : List Char} (nonempty : text ≠ []) :
    lowerAfter before text ≠ [] := by
  obtain ⟨c, rest, rfl⟩ := List.exists_cons_of_ne_nil nonempty
  rw [lowerAfter]
  intro empty
  have first := (List.append_eq_nil_iff.mp empty).1
  split at first
  case isTrue => contradiction
  case isFalse => exact lowerChar_ne_nil c first

theorem isBlank_of_mem_lowerAfter {before text : List Char}
    (letters : ∀ c ∈ text, isBlank c = false) :
    ∀ d ∈ lowerAfter before text, isBlank d = false := by
  intro d member
  obtain ⟨c, found, form | rfl | rfl⟩ := mem_lowerAfter member
  · exact isBlank_of_mem_lowerChar (letters c found) form
  · decide
  · decide

/-! ## Spaces -/

theorem startsCased_append_space (text more : List Char) :
    startsCased (text ++ ' ' :: more) = startsCased text := by
  induction text with
  | nil =>
      have counts : isCaseIgnorable ' ' = false := by decide +kernel
      have uncased : isCased ' ' = false := by decide +kernel
      simp [startsCased, counts, uncased]
  | cons c rest ih =>
      by_cases skipped : isCaseIgnorable c = true
      · simpa [startsCased, skipped] using ih
      · simp [startsCased, skipped]

theorem lowerAfter_before_space (before more text : List Char) :
    lowerAfter (before ++ ' ' :: more) text = lowerAfter before text := by
  induction text generalizing before with
  | nil => rfl
  | cons c rest ih =>
      have later := ih (c :: before)
      rw [List.cons_append] at later
      simp only [lowerAfter, lowerSigma, startsCased_append_space, later]

theorem lowerAfter_append_space (before text rest : List Char) :
    lowerAfter before (text ++ ' ' :: rest) =
      lowerAfter before text ++ ' ' :: lowerAfter [] rest := by
  induction text generalizing before with
  | nil =>
      have after := lowerAfter_before_space [] before rest
      rw [List.nil_append] at after
      have space : lowerChar ' ' = [' '] := by decide
      simp [lowerAfter, space, after]
  | cons c text ih =>
      simp only [List.cons_append, lowerAfter, lowerSigma, startsCased_append_space, ih,
        List.append_assoc]

theorem lower_append_space (a b : String) : lower (a ++ " " ++ b) = lower a ++ " " ++ lower b := by
  apply String.toList_injective
  simp [lower, lowerAfter_append_space]

theorem lower_intercalate (ws : List String) :
    lower (" ".intercalate ws) = " ".intercalate (ws.map lower) := by
  induction ws with
  | nil => rfl
  | cons w rest ih =>
      cases rest with
      | nil => simp
      | cons next rest =>
          rw [String.intercalate_cons_cons, lower_append_space, ih]
          simp

/-! ## Words -/

theorem lower_lower (s : String) : lower (lower s) = lower s := by
  simp [lower, lowerAfter_lowerAfter]

example : lower "ΟΔΟΣ ΣΑΣ" = "οδος σας" := by decide +kernel

theorem isWord_lower {w : String} (word : IsWord w) : IsWord (lower w) := by
  refine ⟨?nonempty, ?letters⟩
  case nonempty =>
    rw [lower, String.toList_ofList]
    exact lowerAfter_ne_nil word.nonempty
  case letters =>
    rw [lower, String.toList_ofList]
    exact isBlank_of_mem_lowerAfter word.letters

theorem isWord_of_mem_lowered {ws : List String} (each : ∀ w ∈ ws, IsWord w) :
    ∀ w ∈ ws.map lower, IsWord w := by
  intro w member
  obtain ⟨raw, found, rfl⟩ := List.mem_map.mp member
  exact isWord_lower (each raw found)

/-! ## ASCII -/

def IsAscii (s : String) : Prop := ∀ c ∈ s.toList, c.toNat < 0x80

instance (s : String) : Decidable (IsAscii s) :=
  decidable_of_iff (s.toList.all (decide <| ·.toNat < 0x80) = true) (by simp [IsAscii])

theorem toLower_toLower_ascii : ∀ c : Char, c.toNat < 0x80 → c.toLower.toLower = c.toLower :=
  forall_ascii (by decide)

theorem lowerAfter_ascii {before text : List Char} (ascii : ∀ c ∈ text, c.toNat < 0x80) :
    lowerAfter before text = text.map Char.toLower := by
  induction text generalizing before with
  | nil => rfl
  | cons c rest ih =>
      have first : c.toNat < 0x80 := ascii c (by simp)
      have noSigma : c ≠ 'Σ' := by
        rintro rfl
        exact absurd first (by decide)
      rw [lowerAfter, if_neg noSigma, lowerChar, if_pos first,
        ih fun other member => ascii other (by simp [member])]
      rfl

/-- The two notions of case agree on ASCII names. -/
theorem sameName_lower {s : String} (ascii : IsAscii s) : sameName s (lower s) = true := by
  rw [sameName, beq_iff_eq, lower, String.toList_ofList, lowerAfter_ascii ascii, List.map_map]
  apply List.map_congr_left
  intro c member
  exact (toLower_toLower_ascii c (ascii c member)).symm

end TextAdventure.Text
