import TextAdventure.Proofs.Lookup

/-!
# What a closer look shows

A closer look at an item shows its lines in order, but for those about another item that has been
found or is hidden.  A line is set off by a blank one unless it is an entry of a checklist, and it
is shown as it is written unless it is about an objective that is complete: then it is struck
(`World.Laid`).  Striking replaces every hyphen, and so it is the same as ticking the boxes
of a line exactly if each hyphen is in a box (`strike_eq_tick_iff`).
-/

set_option autoImplicit false

namespace TextAdventure

namespace World

/-! ## Ticking boxes -/

/-- Put a cross into each empty box. -/
def tickBoxes : List Char → List Char
  | '[' :: '-' :: ']' :: rest => '[' :: 'x' :: ']' :: tickBoxes rest
  | c :: rest => c :: tickBoxes rest
  | [] => []

def tick (line : String) : String :=
  String.ofList (tickBoxes line.toList)

/-- Each hyphen stands in a box. -/
def Boxed (text : List Char) : Prop :=
  ∀ before after, text = before ++ '-' :: after →
    before.getLast? = some '[' ∧ after.head? = some ']'

theorem boxed_box {rest : List Char} : Boxed ('[' :: '-' :: ']' :: rest) ↔ Boxed rest := by
  constructor
  · intro boxed before after split
    obtain ⟨opened, closed⟩ := boxed ('[' :: '-' :: ']' :: before) after (by rw [split]; rfl)
    cases before with
    | nil =>
        -- What stands before this hyphen is the end of the box.
        simp at opened
    | cons b more => simpa [List.getLast?_cons_cons] using ⟨opened, closed⟩
  · intro boxed before after split
    rcases before with _ | ⟨a, _ | ⟨b, _ | ⟨c, earlier⟩⟩⟩
    · simp at split
    · obtain ⟨rfl, rfl⟩ : '[' = a ∧ ']' :: rest = after := by simpa using split
      exact ⟨rfl, rfl⟩
    · simp at split
    · obtain ⟨rfl, rfl, rfl, later⟩ :
          '[' = a ∧ '-' = b ∧ ']' = c ∧ rest = earlier ++ '-' :: after := by simpa using split
      obtain ⟨opened, closed⟩ := boxed earlier after later
      exact ⟨by simp [List.getLast?_cons, opened], closed⟩

theorem boxed_cons {c : Char} {rest : List Char}
    (noBox : ∀ more, c = '[' → rest = '-' :: ']' :: more → False) :
    Boxed (c :: rest) ↔ c ≠ '-' ∧ Boxed rest := by
  constructor
  · intro boxed
    refine ⟨?_, ?_⟩
    · rintro rfl
      exact nomatch (boxed [] rest rfl).1
    · intro before after split
      obtain ⟨opened, closed⟩ := boxed (c :: before) after (by rw [split]; rfl)
      cases before with
      | nil =>
          -- With `c` the hyphen would be in a box that starts here.
          obtain ⟨more, rfl⟩ := List.head?_eq_some_iff.mp closed
          exact (noBox more (Option.some.inj opened) split).elim
      | cons b more => exact ⟨opened, closed⟩
  · rintro ⟨plain, boxed⟩ before after split
    rcases List.cons_eq_append_iff.mp split with ⟨_, same⟩ | ⟨earlier, rfl, later⟩
    · exact absurd (List.cons.inj same).1.symm plain
    · obtain ⟨opened, closed⟩ := boxed earlier after later
      exact ⟨by simp [List.getLast?_cons, opened], closed⟩

-- The cases are those of `tickBoxes`: a box, another character, the end.
theorem strikeChars_eq_tickBoxes_iff (text : List Char) :
    (text.map fun c => if c = '-' then 'x' else c) = tickBoxes text ↔ Boxed text := by
  fun_induction tickBoxes text with
  | case1 rest ih => simpa [boxed_box] using ih
  | case2 c rest noBox ih =>
      rw [boxed_cons noBox, List.map_cons, List.cons.injEq, ih]
      by_cases hyphen : c = '-' <;> simp [hyphen]
  | case3 => simp [Boxed]

/-- Striking a line ticks its boxes, and does nothing else, exactly if each hyphen is in a box. -/
theorem strike_eq_tick_iff {line : String} : strike line = tick line ↔ Boxed line.toList := by
  rw [strike, tick, String.ofList_inj, strikeChars_eq_tickBoxes_iff]

/-! ## What lines are about -/

/-- The key of a line and what the line is about: the keys of a checklist's entries are marked. -/
inductive LineTopic : String → String → Prop
  | entry (topic : String) : LineTopic ("list_" ++ topic) topic
  | prose {key : String} (unmarked : ∀ topic, key ≠ "list_" ++ topic) : LineTopic key key

theorem listKey?_eq_some_iff {key topic : String} :
    listKey? key = some topic ↔ key = "list_" ++ topic := by
  have mark : "list_".toList = listMark := rfl
  rw [← String.toList_inj, String.toList_append, mark, listKey?, Option.ite_none_right_eq_some,
    List.isPrefixOf_iff_prefix, Option.some.injEq]
  constructor
  · rintro ⟨⟨rest, split⟩, rfl⟩
    rw [← split, String.toList_ofList, List.drop_left]
  · intro split
    rw [split, List.drop_left, String.ofList_toList]
    exact ⟨List.prefix_append _ _, rfl⟩

theorem listKey?_eq_none_iff {key : String} :
    listKey? key = none ↔ ∀ topic, key ≠ "list_" ++ topic := by
  simp only [ne_eq, ← listKey?_eq_some_iff]
  exact Option.eq_none_iff_forall_ne_some

theorem lineTopic_iff {key topic : String} :
    LineTopic key topic ↔ (listKey? key).getD key = topic := by
  constructor
  · rintro (_ | unmarked)
    · rw [listKey?_eq_some_iff.mpr rfl, Option.getD_some]
    · rw [listKey?_eq_none_iff.mpr unmarked, Option.getD_none]
  · rintro rfl
    cases marked : listKey? key with
    | some topic =>
        obtain rfl := listKey?_eq_some_iff.mp marked
        exact .entry topic
    | none => exact .prose (listKey?_eq_none_iff.mp marked)

variable {w : World} {item : Item}

/-- A line is about another item, which has been found or is hidden. -/
def Withheld (w : World) (item : Item) (key : String) : Prop :=
  ∃ other, w.item? key = some other ∧ other.name ≠ item.name ∧
    (other.discovered = true ∨ other.hidden = true)

/-- A line is about an objective that is complete. -/
def Done (w : World) (key : String) : Prop :=
  ∃ topic objective, LineTopic key topic ∧ w.objective? topic = some objective ∧
    w.complete objective = true

theorem showsLine_iff {key : String} : w.showsLine item key = true ↔ ¬w.Withheld item key := by
  unfold showsLine Withheld
  cases w.item? key with
  | none => simp
  | some other => by_cases same : other.name = item.name <;> simp [same]

theorem lineText_of_done {key line : String} (done : w.Done key) :
    w.lineText key line = strike line := by
  obtain ⟨topic, objective, about, known, complete⟩ := done
  rw [lineText, lineTopic_iff.mp about, known]
  exact if_pos complete

theorem lineText_of_not_done {key line : String} (undone : ¬w.Done key) :
    w.lineText key line = line := by
  unfold lineText
  cases known : w.objective? ((listKey? key).getD key) with
  | none => rfl
  | some objective =>
      refine if_neg fun complete => undone ?_
      exact ⟨_, objective, lineTopic_iff.mpr rfl, known, complete⟩

/-! ## The lines of an item -/

/-- The text of a line: marked if the line is about a complete objective, and else as written. -/
structure Reads (w : World) (mark : String → String) (key line text : String) : Prop where
  done : w.Done key → text = mark line
  undone : ¬w.Done key → text = line

/-- What is shown for lines about an item, when lines about complete objectives are marked. -/
inductive Laid (w : World) (item : Item) (mark : String → String) :
    List (String × String) → List Message → Prop
  | nothing : Laid w item mark [] []
  | withheld {key line : String} {rest : List (String × String)} {messages : List Message}
      (hidden : w.Withheld item key) (later : Laid w item mark rest messages) :
      Laid w item mark ((key, line) :: rest) messages
  | entry {key topic line text : String} {rest : List (String × String)} {messages : List Message}
      (shown : ¬w.Withheld item key) (marked : key = "list_" ++ topic)
      (reads : w.Reads mark key line text) (later : Laid w item mark rest messages) :
      Laid w item mark ((key, line) :: rest) (.paragraph text :: messages)
  | prose {key line text : String} {rest : List (String × String)} {messages : List Message}
      (shown : ¬w.Withheld item key) (unmarked : ∀ topic, key ≠ "list_" ++ topic)
      (reads : w.Reads mark key line text) (later : Laid w item mark rest messages) :
      Laid w item mark ((key, line) :: rest) (.blank :: .paragraph text :: messages)

theorem reads_lineText (key line : String) : w.Reads strike key line (w.lineText key line) :=
  ⟨lineText_of_done, lineText_of_not_done⟩

theorem Reads.unique {mark : String → String} {key line text other : String}
    (reads : w.Reads mark key line text) (again : w.Reads mark key line other) : text = other := by
  by_cases done : w.Done key
  · exact (reads.done done).trans (again.done done).symm
  · exact (reads.undone done).trans (again.undone done).symm

theorem Reads.with_mark_iff {one other : String → String} {key line text : String}
    (reads : w.Reads one key line text) :
    w.Reads other key line text ↔ (w.Done key → one line = other line) := by
  constructor
  · exact fun again done => (reads.done done).symm.trans (again.done done)
  · exact fun same => ⟨fun done => (reads.done done).trans (same done), reads.undone⟩

theorem laid_lineMessages (lines : List (String × String)) :
    w.Laid item strike lines (lines.flatMap (w.lineMessages item)) := by
  induction lines with
  | nil => exact .nothing
  | cons first rest ih =>
      obtain ⟨key, line⟩ := first
      rw [List.flatMap_cons, lineMessages]
      by_cases hidden : w.Withheld item key
      · rw [if_neg fun shows => showsLine_iff.mp shows hidden]
        exact .withheld hidden ih
      · rw [if_pos (showsLine_iff.mpr hidden)]
        cases marked : listKey? key with
        | some topic =>
            exact .entry hidden (listKey?_eq_some_iff.mp marked) (reads_lineText key line) ih
        | none => exact .prose hidden (listKey?_eq_none_iff.mp marked) (reads_lineText key line) ih

/-- The lines of an item and the marks leave no choice of what is shown. -/
theorem Laid.unique {mark : String → String} {lines : List (String × String)}
    {messages others : List Message} (laid : w.Laid item mark lines messages)
    (again : w.Laid item mark lines others) : messages = others := by
  induction laid generalizing others with
  | nothing =>
      cases again
      rfl
  | withheld hidden _ ih =>
      rcases again with _ | ⟨_, later⟩ | ⟨shown⟩ | ⟨shown⟩
      · exact ih later
      · exact absurd hidden shown
      · exact absurd hidden shown
  | entry shown marked reads _ ih =>
      rcases again with _ | ⟨hidden⟩ | ⟨_, _, also, later⟩ | ⟨_, unmarked⟩
      · exact absurd hidden shown
      · rw [reads.unique also, ih later]
      · exact absurd marked (unmarked _)
  | prose shown unmarked reads _ ih =>
      rcases again with _ | ⟨hidden⟩ | ⟨_, marked⟩ | ⟨_, _, also, later⟩
      · exact absurd hidden shown
      · exact absurd marked (unmarked _)
      · rw [reads.unique also, ih later]

/-- With another mark the same is shown exactly if the marks agree on the lines that are marked. -/
theorem Laid.with_mark_iff {one other : String → String} {lines : List (String × String)}
    {messages : List Message} (laid : w.Laid item one lines messages) :
    w.Laid item other lines messages ↔
      ∀ entry ∈ lines, ¬w.Withheld item entry.1 → w.Done entry.1 →
        one entry.2 = other entry.2 := by
  induction laid with
  | nothing => simp [Laid.nothing]
  | withheld hidden _ ih =>
      rw [List.forall_mem_cons, ← ih]
      constructor
      · rintro (_ | ⟨_, later⟩ | ⟨shown⟩ | ⟨shown⟩)
        · exact ⟨fun shown => absurd hidden shown, later⟩
        · exact absurd hidden shown
        · exact absurd hidden shown
      · exact fun same => .withheld hidden same.2
  | entry shown marked reads _ ih =>
      rw [List.forall_mem_cons, ← ih]
      constructor
      · rintro (_ | ⟨hidden⟩ | ⟨_, _, again, later⟩)
        · exact absurd hidden shown
        · exact ⟨fun _ => reads.with_mark_iff.mp again, later⟩
      · exact fun same => .entry shown marked (reads.with_mark_iff.mpr (same.1 shown)) same.2
  | prose shown unmarked reads _ ih =>
      rw [List.forall_mem_cons, ← ih]
      constructor
      · rintro (_ | ⟨hidden⟩ | ⟨⟩ | ⟨_, _, again, later⟩)
        · exact absurd hidden shown
        · exact ⟨fun _ => reads.with_mark_iff.mp again, later⟩
      · exact fun same => .prose shown unmarked (reads.with_mark_iff.mpr (same.1 shown)) same.2

theorem inspect_of_nearby {target : String} (found : w.item? target = some item)
    (near : w.nearby item.name = true) :
    w.inspect (some target) = ⟨.success, item.lookLines.flatMap (w.lineMessages item)⟩ := by
  simp [inspect, found, near]

/-- A closer look at an item at hand shows its lines, and those about complete objectives struck.
They are shown with their boxes ticked, and else as they are written, exactly if each hyphen of
these lines is in a box. -/
theorem inspected_as_written_iff (w : World) {target : String} {item : Item}
    (found : w.item? target = some item) (near : w.nearby item.name = true) :
    ∃ messages, w.inspect (some target) = ⟨.success, messages⟩ ∧
      w.Laid item strike item.lookLines messages ∧
      (w.Laid item tick item.lookLines messages ↔
        ∀ entry ∈ item.lookLines, ¬w.Withheld item entry.1 → w.Done entry.1 →
          Boxed entry.2.toList) := by
  refine ⟨_, inspect_of_nearby found near, laid_lineMessages _, ?_⟩
  simp only [(laid_lineMessages item.lookLines).with_mark_iff, strike_eq_tick_iff]

end World

namespace PickleQuest

def pantryLit : World :=
  { kitchenWorld with objectives := [light.record "flashlight" "turn on", liberate, savor] }

theorem fork_shows_its_checklist :
    pantryLit.item? "utensil" = some fork ∧ pantryLit.nearby fork.name = true ∧
      pantryLit.Done "list_light the pantry" ∧
      ∃ messages, pantryLit.inspect (some "utensil") = ⟨.success, messages⟩ ∧
        pantryLit.Laid fork World.tick fork.lookLines messages ∧
        .paragraph "[x] Light up the pantry" ∈ messages := by
  have known : pantryLit.item? "utensil" = some fork ∧ pantryLit.nearby fork.name = true ∧
      pantryLit.objective? "light the pantry" = some (light.record "flashlight" "turn on") ∧
      pantryLit.complete (light.record "flashlight" "turn on") = true ∧
      (∀ entry ∈ fork.lookLines, World.strike entry.2 = World.tick entry.2) ∧
      .paragraph "[x] Light up the pantry" ∈ (pantryLit.inspect (some "utensil")).messages := by
    decide +kernel
  obtain ⟨found, near, objective, complete, ticked, struck⟩ := known
  obtain ⟨messages, shown, _, written⟩ := pantryLit.inspected_as_written_iff found near
  rw [shown] at struck
  have done : pantryLit.Done "list_light the pantry" :=
    ⟨_, _, World.lineTopic_iff.mpr (by decide +kernel), objective, complete⟩
  refine ⟨found, near, done, messages, shown, ?_, struck⟩
  exact written.mpr fun entry listed _ _ => World.strike_eq_tick_iff.mp (ticked entry listed)

def pitchDarkFork : Item :=
  { fork with
    lookLines := fork.lookLines.map fun (key, line) =>
      if key = "list_light the pantry" then (key, "[-] Light up the pitch-dark pantry")
      else (key, line) }

def pitchDark : World :=
  { pantryLit with
    items := items.map fun item => if item.name = "fork" then pitchDarkFork else item }

/-- The box of the line is ticked, and the hyphen of its adjective is lost. -/
theorem pitch_dark_is_struck :
    pitchDark.item? "fork" = some pitchDarkFork ∧ pitchDark.nearby pitchDarkFork.name = true ∧
      World.tick "[-] Light up the pitch-dark pantry" = "[x] Light up the pitch-dark pantry" ∧
      (pitchDark.inspect (some "fork")).status = .success ∧
      .paragraph "[x] Light up the pitchxdark pantry" ∈
        (pitchDark.inspect (some "fork")).messages ∧
      ¬pitchDark.Laid pitchDarkFork World.tick pitchDarkFork.lookLines
        (pitchDark.inspect (some "fork")).messages := by
  have known : pitchDark.item? "fork" = some pitchDarkFork ∧
      pitchDark.nearby pitchDarkFork.name = true ∧
      World.tick "[-] Light up the pitch-dark pantry" = "[x] Light up the pitch-dark pantry" ∧
      (pitchDark.inspect (some "fork")).status = .success ∧
      .paragraph "[x] Light up the pitchxdark pantry" ∈
        (pitchDark.inspect (some "fork")).messages := by
    decide +kernel
  obtain ⟨found, near, ticked, succeeds, struck⟩ := known
  have line : ("list_light the pantry", "[-] Light up the pitch-dark pantry") ∈
        pitchDarkFork.lookLines ∧
      pitchDark.showsLine pitchDarkFork "list_light the pantry" = true ∧
      pitchDark.objective? "light the pantry" = some (light.record "flashlight" "turn on") ∧
      pitchDark.complete (light.record "flashlight" "turn on") = true := by
    decide +kernel
  obtain ⟨listed, shows, objective, complete⟩ := line
  have done : pitchDark.Done "list_light the pantry" :=
    ⟨_, _, World.lineTopic_iff.mpr (by decide +kernel), objective, complete⟩
  refine ⟨found, near, ticked, succeeds, struck, ?_⟩
  rw [World.inspect_of_nearby found near,
    (World.laid_lineMessages pitchDarkFork.lookLines).with_mark_iff]
  intro same
  exact absurd (same _ listed (World.showsLine_iff.mp shows) done) (by decide +kernel)

end PickleQuest

end TextAdventure
