/-!
# Sets of code points as ranges

A class of characters is written as the list of its ranges, both ends included.
-/

set_option autoImplicit false

namespace TextAdventure.Text

abbrev Ranges := List (Nat × Nat)

def Ranges.has (ranges : Ranges) (c : Char) : Bool :=
  ranges.any fun (first, last) => first ≤ c.toNat && c.toNat ≤ last

end TextAdventure.Text
