import TextAdventure.Text.Blank
import TextAdventure.Text.Case

/-!
# Scroll speeds

How fast responses appear, character by character.
-/

set_option autoImplicit false

namespace TextAdventure

inductive Speed where
  | fast
  | medium
  | slow
  | off
deriving DecidableEq, Inhabited

namespace Speed

/-- The pause after each character, in milliseconds. -/
def delay : Speed → Nat
  | fast => 5
  | medium => 10
  | slow => 20
  | off => 0

/-- The speed that a name in the settings stands for. -/
def ofName? (name : String) : Option Speed :=
  match Text.lower (Text.trim name) with
  | "fast" => some .fast
  | "medium" => some .medium
  | "normal" => some .medium
  | "slow" => some .slow
  | "off" => some .off
  | _ => none

end Speed

end TextAdventure
