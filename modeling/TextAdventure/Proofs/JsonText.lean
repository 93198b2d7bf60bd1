import TextAdventure.Json.Printer
import TextAdventure.Json.Reader

/-!
# Reading what was written

The reader takes the text of a value back to the value, whatever is open around it: from a state
between tokens in which a value may come, the printed value leads to the state after that value.
Only values are covered that have no numbers and no lone code units, as those of all game files.
-/

set_option autoImplicit false

namespace TextAdventure.Json

/-- A value without numbers, whose strings and names all have a text. -/
inductive Plain : Json → Prop
  | null : Plain .null
  | bool (value : Bool) : Plain (.bool value)
  | text (s : String) : Plain (text s)
  | array (items : List Json) (plain : ∀ item ∈ items, Plain item) : Plain (.array items)
  | members (l : List (String × Json)) (plain : ∀ entry ∈ l, Plain entry.2) : Plain (members l)

namespace State

/-- The state after more characters. -/
def feed (s : State) (cs : List Char) : Option State :=
  cs.foldlM step s

@[simp]
theorem feed_nil (s : State) : s.feed [] = some s := rfl

@[simp]
theorem feed_cons (s : State) (c : Char) (cs : List Char) :
    s.feed (c :: cs) = (s.step c).bind (·.feed cs) := rfl

theorem feed_append (s : State) (first second : List Char) :
    s.feed (first ++ second) = (s.feed first).bind (·.feed second) := by
  simp only [feed, List.foldlM_append]
  rfl

theorem feed_of_append {s middle last : State} {first second : List Char}
    (h : s.feed first = some middle) (h' : middle.feed second = some last) :
    s.feed (first ++ second) = some last := by
  rw [feed_append, h]
  exact h'

/-! ## Strings -/

/-- A unit of a string literal that stands for one character, whatever comes after it. -/
def Spells (unit : CodeUnit) (c : Char) : Prop :=
  ∀ rest, decodeUnits (unit :: rest) = (decodeUnits rest).map (c :: ·)

theorem spells_char (c : Char) : Spells (.char c) c := fun _ => rfl

theorem spells_code {c : Char} (h : c.toNat < 0x20) : Spells (.code c.toNat) c := by
  intro rest
  have low : ¬ (0xD800 ≤ c.toNat) := by omega
  have low' : ¬ (0xDC00 ≤ c.toNat) := by omega
  cases rest with
  | nil => simp [decodeUnits, low]
  | cons unit rest => cases unit <;> simp [decodeUnits, low, low']

theorem hexDigit?_hexDigit : ∀ n, n < 16 → hexDigit? (hexDigit n) = some n := by
  decide

theorem feed_escape_control (read : List CodeUnit) (expected : Expected) (frames : List Frame)
    {c : Char} (h : c.toNat < 0x20) :
    feed ⟨.string read, expected, frames⟩
        ['\\', 'u', '0', '0', hexDigit (c.toNat / 16), hexDigit (c.toNat % 16)] =
      some ⟨.string (.code c.toNat :: read), expected, frames⟩ := by
  have zero : hexDigit? '0' = some 0 := by decide
  have high := hexDigit?_hexDigit (c.toNat / 16) (by omega)
  have low := hexDigit?_hexDigit (c.toNat % 16) (by omega)
  have whole : c.toNat / 16 * 16 + c.toNat % 16 = c.toNat := by omega
  simp [step, zero, high, low, whole]

/-- The spelling of a character is read as one unit that stands for it. -/
theorem feed_escapeChar (read : List CodeUnit) (expected : Expected) (frames : List Frame)
    (c : Char) :
    ∃ unit, Spells unit c ∧
      feed ⟨.string read, expected, frames⟩ (escapeChar c) =
        some ⟨.string (unit :: read), expected, frames⟩ := by
  unfold escapeChar
  split
  case h_8 quote backslash _ _ _ _ _ =>
      have noQuote : c ≠ '"' := quote
      have noBackslash : c ≠ '\\' := backslash
      by_cases control : c.toNat < 0x20
      · rw [if_pos control]
        exact ⟨.code c.toNat, spells_code control, feed_escape_control read expected frames control⟩
      · rw [if_neg control]
        refine ⟨.char c, spells_char c, ?_⟩
        simp [step, noQuote, noBackslash, control]
  all_goals exact ⟨.char _, spells_char _, rfl⟩

theorem feed_escaped (expected : Expected) (frames : List Frame) (cs : List Char) :
    ∀ read : List CodeUnit, ∃ units, decodeUnits units = some cs ∧
      feed ⟨.string read, expected, frames⟩ (cs.flatMap escapeChar) =
        some ⟨.string (units.reverse ++ read), expected, frames⟩ := by
  induction cs with
  | nil => exact fun read => ⟨[], rfl, rfl⟩
  | cons c cs ih =>
      intro read
      obtain ⟨unit, spells, head⟩ := feed_escapeChar read expected frames c
      obtain ⟨units, decoded, tail⟩ := ih (unit :: read)
      refine ⟨unit :: units, by rw [spells, decoded]; rfl, ?_⟩
      rw [List.flatMap_cons, feed_of_append head tail]
      simp

/-- A string literal that has been opened is read to its end. -/
theorem feed_quoted (expected : Expected) (frames : List Frame) (s : String) :
    feed ⟨.string [], expected, frames⟩ (s.toList.flatMap escapeChar ++ ['"']) =
      some (closeString ⟨.string [], expected, frames⟩ (some s)) := by
  obtain ⟨units, decoded, read⟩ := feed_escaped expected frames s.toList []
  refine feed_of_append read ?_
  simp [step, decoded, closeString]

/-! ## Values -/

theorem feed_blanks (expected : Expected) (frames : List Frame) (blanks : List Char)
    (h : ∀ c ∈ blanks, isSpace c = true) :
    feed ⟨.between, expected, frames⟩ blanks = some ⟨.between, expected, frames⟩ := by
  induction blanks with
  | nil => rfl
  | cons c rest ih =>
      have blank : isSpace c = true := h c (by simp)
      have others : ∀ c ∈ rest, isSpace c = true := fun c member => h c (by simp [member])
      simpa [step, stepBetween, blank] using ih others

theorem feed_newLine (expected : Expected) (frames : List Frame) (depth : Nat) :
    feed ⟨.between, expected, frames⟩ (newLine depth) = some ⟨.between, expected, frames⟩ := by
  apply feed_blanks
  intro c member
  rcases List.mem_cons.mp member with rfl | member
  · rfl
  · rw [List.eq_of_mem_replicate member]
    rfl

/-- A value may come next. -/
def Open (expected : Expected) : Prop :=
  expected = .value ∨ expected = .firstItem

theorem feed_text {expected : Expected} (h : Open expected) (frames : List Frame) (s : String) :
    feed ⟨.between, expected, frames⟩ (printString (some s)) =
      some (deliver (.text s) frames) := by
  have opened : feed ⟨.between, expected, frames⟩ ['"'] = some ⟨.string [], .value, frames⟩ := by
    rcases h with rfl | rfl <;> rfl
  have closed : closeString ⟨.string [], .value, frames⟩ (some s) = deliver (.text s) frames := rfl
  have whole := feed_of_append opened (feed_quoted .value frames s)
  rw [closed] at whole
  simpa [printString] using whole

/-- The name of a member, with the colon and the blank after it. -/
theorem feed_name {expected : Expected} (h : expected = .firstName ∨ expected = .name)
    (done : List (Option String × Json)) (last : Option String) (frames : List Frame)
    (name : String) :
    feed ⟨.between, expected, .object done last :: frames⟩ (printString (some name) ++ [':', ' ']) =
      some ⟨.between, .value, .object done (some name) :: frames⟩ := by
  have opened : feed ⟨.between, expected, .object done last :: frames⟩ ['"'] =
      some ⟨.string [], .name, .object done last :: frames⟩ := by
    rcases h with rfl | rfl <;> rfl
  have quoted := feed_of_append opened (feed_quoted .name (.object done last :: frames) name)
  have colon : feed ⟨.between, .colon, .object done (some name) :: frames⟩ [':', ' '] =
      some ⟨.between, .value, .object done (some name) :: frames⟩ := rfl
  have whole := feed_of_append quoted colon
  simpa [printString] using whole

/-- The text of a value leads past the value, at every depth and within all that is open. -/
def Returns (value : Json) : Prop :=
  ∀ depth expected frames, Open expected →
    feed ⟨.between, expected, frames⟩ (print depth value) = some (deliver value frames)

theorem feed_printItems (items : List Json) (h : ∀ item ∈ items, Returns item) (depth : Nat)
    (frames : List Frame) :
    ∀ done : List Json,
      feed ⟨.between, .separator, .array done :: frames⟩ (printItems depth items) =
        some ⟨.between, .separator, .array (items.reverse ++ done) :: frames⟩ := by
  induction items with
  | nil => intro done; rfl
  | cons item rest ih =>
      intro done
      have comma : feed ⟨.between, .separator, .array done :: frames⟩ [','] =
          some ⟨.between, .value, .array done :: frames⟩ := rfl
      have line := feed_newLine .value (.array done :: frames) depth
      have value := h item (by simp) depth .value (.array done :: frames) (Or.inl rfl)
      have tail := ih (fun other member => h other (by simp [member])) (item :: done)
      have whole := feed_of_append (feed_of_append (feed_of_append comma line) value) tail
      simpa [printItems] using whole

theorem feed_printMembers (l : List (String × Json)) (h : ∀ entry ∈ l, Returns entry.2)
    (depth : Nat) (frames : List Frame) :
    ∀ (done : List (Option String × Json)) (last : Option String), ∃ name,
      feed ⟨.between, .separator, .object done last :: frames⟩
          (printMembers depth (l.map fun (name, value) => (some name, value))) =
        some ⟨.between, .separator,
          .object ((l.map fun (name, value) => (some name, value)).reverse ++ done) name ::
            frames⟩ := by
  induction l with
  | nil => intro done last; exact ⟨last, rfl⟩
  | cons entry rest ih =>
      intro done last
      obtain ⟨name, value⟩ := entry
      have comma : feed ⟨.between, .separator, .object done last :: frames⟩ [','] =
          some ⟨.between, .name, .object done last :: frames⟩ := rfl
      have line := feed_newLine .name (.object done last :: frames) depth
      have named := feed_name (Or.inr rfl) done last frames name
      have read := h (name, value) (by simp) depth .value
        (.object done (some name) :: frames) (Or.inl rfl)
      obtain ⟨final, tail⟩ := ih (fun other member => h other (by simp [member]))
        ((some name, value) :: done) (some name)
      have whole := feed_of_append (feed_of_append (feed_of_append (feed_of_append comma line)
        named) read) tail
      refine ⟨final, ?_⟩
      simpa [printMembers] using whole

theorem returns_array (items : List Json) (h : ∀ item ∈ items, Returns item) :
    Returns (.array items) := by
  intro depth expected frames opens
  have opened : feed ⟨.between, expected, frames⟩ ['['] =
      some ⟨.between, .firstItem, .array [] :: frames⟩ := by
    rcases opens with rfl | rfl <;> rfl
  cases items with
  | nil =>
      have closed : feed ⟨.between, .firstItem, .array [] :: frames⟩ [']'] =
          some (deliver (.array []) frames) := rfl
      exact feed_of_append opened closed
  | cons item rest =>
      have line := feed_newLine .firstItem (.array [] :: frames) (depth + 1)
      have value := h item (by simp) (depth + 1) .firstItem (.array [] :: frames) (Or.inr rfl)
      have tail := feed_printItems rest (fun other member => h other (by simp [member]))
        (depth + 1) frames [item]
      have last := feed_newLine .separator (.array (rest.reverse ++ [item]) :: frames) depth
      have closed : feed ⟨.between, .separator, .array (rest.reverse ++ [item]) :: frames⟩ [']'] =
          some (deliver (.array (item :: rest)) frames) := by
        simp [step, stepBetween, isSpace, close]
      have whole := feed_of_append (feed_of_append (feed_of_append (feed_of_append
        (feed_of_append opened line) value) tail) last) closed
      simpa [print] using whole

theorem returns_members (l : List (String × Json)) (h : ∀ entry ∈ l, Returns entry.2) :
    Returns (members l) := by
  intro depth expected frames opens
  have opened : feed ⟨.between, expected, frames⟩ ['\x7b'] =
      some ⟨.between, .firstName, .object [] none :: frames⟩ := by
    rcases opens with rfl | rfl <;> rfl
  cases l with
  | nil =>
      have closed : feed ⟨.between, .firstName, .object [] none :: frames⟩ ['\x7d'] =
          some (deliver (.object []) frames) := rfl
      exact feed_of_append opened closed
  | cons entry rest =>
      obtain ⟨name, value⟩ := entry
      have line := feed_newLine .firstName (.object [] none :: frames) (depth + 1)
      have named := feed_name (Or.inl rfl) [] none frames name
      have read := h (name, value) (by simp) (depth + 1) .value
        (.object [] (some name) :: frames) (Or.inl rfl)
      obtain ⟨final, tail⟩ := feed_printMembers rest
        (fun other member => h other (by simp [member])) (depth + 1) frames [(some name, value)]
        (some name)
      have last := feed_newLine .separator (.object ((rest.map fun (name, value) =>
        (some name, value)).reverse ++ [(some name, value)]) final :: frames) depth
      have closed : feed ⟨.between, .separator, .object ((rest.map fun (name, value) =>
          (some name, value)).reverse ++ [(some name, value)]) final :: frames⟩ ['\x7d'] =
          some (deliver (members ((name, value) :: rest)) frames) := by
        simp [step, stepBetween, isSpace, close, members]
      have whole := feed_of_append (feed_of_append (feed_of_append (feed_of_append (feed_of_append
        (feed_of_append opened line) named) read) tail) last) closed
      simpa [print, members] using whole

/-- The text of a plain value leads past the value. -/
theorem returns_of_plain {value : Json} (h : Plain value) : Returns value := by
  induction h with
  | null => exact fun _ _ _ opens => by rcases opens with rfl | rfl <;> rfl
  | bool value =>
      intro depth expected frames opens
      cases value <;> rcases opens with rfl | rfl <;> rfl
  | text s =>
      intro depth expected frames opens
      simpa [print, text] using feed_text opens frames s
  | array items _ ih => exact returns_array items ih
  | members l _ ih => exact returns_members l ih

end State

/-- The text that is written for a plain value is read as that value. -/
theorem ofText?_toText {value : Json} (h : Plain value) : ofText? value.toText = some value := by
  have read := State.returns_of_plain h 0 .value [] (Or.inl rfl)
  unfold ofText? toText
  rw [String.toList_ofList]
  exact Option.bind_eq_some_iff.mpr ⟨_, read, rfl⟩

end TextAdventure.Json
