/-!
# Structured text values

The values that game files are written in.  A number is kept as it is spelled, since no game
record holds one.  Objects keep their members in the order in which they are written, repeated
names included; what a repeated name means is for the reader of a record to say.

A string literal may spell, with escapes, code units that pair up to no character.  Such a
literal is well formed but has no text, and is kept as `none`.
-/

set_option autoImplicit false

namespace TextAdventure

inductive Json where
  | null
  | bool (value : Bool)
  | number (literal : String)
  | string (text? : Option String)
  | array (items : List Json)
  | object (members : List (Option String × Json))
deriving Inhabited

namespace Json

def text (s : String) : Json := .string (some s)

def texts (l : List String) : Json := .array (l.map text)

def members (l : List (String × Json)) : Json :=
  .object (l.map fun (name, value) => (some name, value))

end Json

end TextAdventure
