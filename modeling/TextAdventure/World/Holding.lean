/-!
# Lists of held names

What a player carries and what lies in a room are lists of item names.  Adding a name that is
held already changes nothing; removing one removes every copy.
-/

set_option autoImplicit false

namespace TextAdventure

def addName (name : String) (held : List String) : List String :=
  if held.contains name then held else held ++ [name]

def removeName (name : String) (held : List String) : List String :=
  held.filter (· != name)

end TextAdventure
