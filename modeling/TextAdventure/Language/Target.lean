import TextAdventure.Language.Vocabulary
import TextAdventure.World.Basic

/-!
# What words refer to

A phrase of the player refers to, in this order, a command keyword, a room by name, a room by
direction, or an item at hand.  A phrase that does not come from the player refers to itself.

In a longer list of words the targets are found with a window on them.  It holds all words at
first, slides to the right, and is one word shorter each time it has come to the end.  When the
words in it refer to something they are taken out, and the search starts over with those that are
left.
-/

set_option autoImplicit false

namespace TextAdventure

namespace World

/-- The room that a phrase leads to when it is read as a direction from the current room. -/
def roomInDirection? (w : World) (v : Vocabulary) (phrase : String) : Option Room := do
  let direction ← v.direction? phrase
  let room ← w.currentRoom?
  let target ← room.directionalExit? direction.name
  w.room? target

/-- The room that a phrase leads to, by name or else by direction. -/
def destination? (w : World) (v : Vocabulary) (phrase : String) : Option Room :=
  (w.room? phrase).or (w.roomInDirection? v phrase)

end World

/-- What is needed to tell what words refer to. -/
structure Scene where
  world : World
  vocabulary : Vocabulary
  /-- Whether the words are the player's own. -/
  fromPlayer : Bool

namespace Scene

/-- The name of what a player's phrase refers to. -/
def referent? (s : Scene) (phrase : String) : Option String :=
  (s.vocabulary.keyword? phrase).or <|
    ((s.world.destination? s.vocabulary phrase).map (·.name)).or <|
      (s.world.nearbyItem? phrase).map (·.name)

/-- The name of what a phrase refers to. -/
def find? (s : Scene) (phrase : String) : Option String :=
  if !s.fromPlayer then some phrase
  else if Text.isVoid phrase then none
  else s.referent? phrase

def resolve? (s : Scene) (words : List String) : Option String :=
  s.find? (Text.lower (" ".intercalate words))

/-- The target that words name; an empty name is no target. -/
def target? (s : Scene) (words : List String) : Option String :=
  (s.resolve? words).filter (!·.isEmpty)

end Scene

/-! ## Searching a list of words -/

/-- The words in a window of a length, if it does not reach beyond the last word. -/
def window? (words : List String) (length start : Nat) : Option (List String) :=
  if start + length ≤ words.length then some ((words.drop start).take length) else none

/-- The words that are left when those in a window are taken out. -/
def withoutWindow (words : List String) (length start : Nat) : List String :=
  words.take start ++ words.drop (start + length)

/-- The sum of the first squares. -/
def squares : Nat → Nat
  | 0 => 0
  | n + 1 => squares n + (n + 1) * (n + 1)

theorem squares_mono {m n : Nat} (le : m ≤ n) : squares m ≤ squares n := by
  induction n with
  | zero => exact Nat.le_of_eq (congrArg squares (Nat.le_zero.mp le))
  | succ n ih =>
      rcases Nat.le_or_eq_of_le_succ le with less | same
      · exact Nat.le_trans (ih less) (Nat.le_add_right ..)
      · exact Nat.le_of_eq (congrArg squares same)

/-- A bound on the windows to be tried from one on, of a length and at a place in so many words. -/
def windowsLeft (words length start : Nat) : Nat :=
  squares words + length * (words + 1) + (words - start)

theorem windowsLeft_restart {words fewer length start : Nat} (less : fewer < words) :
    windowsLeft fewer fewer 0 < windowsLeft words length start := by
  have room : squares (fewer + 1) ≤ squares words := squares_mono less
  have next : squares (fewer + 1) = squares fewer + (fewer + 1) * (fewer + 1) := rfl
  have product : (fewer + 1) * (fewer + 1) = fewer * (fewer + 1) + (fewer + 1) :=
    Nat.succ_mul fewer (fewer + 1)
  unfold windowsLeft
  omega

theorem windowsLeft_shorter {words length start : Nat} (positive : length ≠ 0) :
    windowsLeft words (length - 1) 0 < windowsLeft words length start := by
  obtain ⟨shorter, rfl⟩ := Nat.exists_eq_succ_of_ne_zero positive
  have product : (shorter + 1) * (words + 1) = shorter * (words + 1) + (words + 1) :=
    Nat.succ_mul shorter (words + 1)
  unfold windowsLeft
  simp only [Nat.succ_eq_add_one, Nat.add_sub_cancel]
  omega

theorem le_of_window? {words inside : List String} {length start : Nat}
    (held : window? words length start = some inside) : start + length ≤ words.length := by
  unfold window? at held
  split at held
  · assumption
  · contradiction

theorem length_withoutWindow {words : List String} {length start : Nat}
    (fits : start + length ≤ words.length) :
    (withoutWindow words length start).length = words.length - length := by
  simp only [withoutWindow, List.length_append, List.length_take, List.length_drop]
  omega

namespace Scene

/-- The targets found from a window on, or nothing if a window were to reach beyond the words. -/
def search? (s : Scene) (words : List String) (length start : Nat) : Option (List String) :=
  if _ : length = 0 then some []
  else
    match _ : window? words length start with
    | none => none
    | some inside =>
        match s.target? inside with
        | some target =>
            let left := withoutWindow words length start
            (s.search? left left.length 0).map (target :: ·)
        | none =>
            if start + length = words.length then s.search? words (length - 1) 0
            else s.search? words length (start + 1)
termination_by windowsLeft words.length length start
decreasing_by
  · have fits := le_of_window? ‹window? words length start = some _›
    apply windowsLeft_restart
    rw [length_withoutWindow fits]
    omega
  · exact windowsLeft_shorter ‹_›
  · have fits := le_of_window? ‹window? words length start = some _›
    unfold windowsLeft
    omega

/-- The targets that a list of words names. -/
def targets (s : Scene) (words : List String) : List String :=
  (s.search? words words.length 0).getD []

end Scene

end TextAdventure
