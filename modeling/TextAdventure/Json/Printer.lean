import TextAdventure.Json.Basic

/-!
# Writing values

Values are laid out one member or item a line, two spaces deeper at each level; an empty array
or object is written in two brackets.  A string escapes quotes, backslashes and control
characters and nothing else.
-/

set_option autoImplicit false

namespace TextAdventure.Json

def hexDigit (n : Nat) : Char :=
  if n < 10 then Char.ofNat (48 + n) else Char.ofNat (87 + n)

/-- The spelling of a character inside quotes. -/
def escapeChar (c : Char) : List Char :=
  match c with
  | '"' => ['\\', '"']
  | '\\' => ['\\', '\\']
  | '\n' => ['\\', 'n']
  | '\r' => ['\\', 'r']
  | '\t' => ['\\', 't']
  | '\x08' => ['\\', 'b']
  | '\x0c' => ['\\', 'f']
  | _ =>
      if c.toNat < 0x20 then
        ['\\', 'u', '0', '0', hexDigit (c.toNat / 16), hexDigit (c.toNat % 16)]
      else [c]

/-- A string literal; one without a text is a lone code unit. -/
def printString : Option String → List Char
  | some s => '"' :: s.toList.flatMap escapeChar ++ ['"']
  | none => ['"', '\\', 'u', 'd', '8', '0', '0', '"']

/-- A new line at the given depth. -/
def newLine (depth : Nat) : List Char :=
  '\n' :: List.replicate (2 * depth) ' '

mutual

/-- A value whose last line stands at the given depth. -/
def print (depth : Nat) : Json → List Char
  | .null => ['n', 'u', 'l', 'l']
  | .bool true => ['t', 'r', 'u', 'e']
  | .bool false => ['f', 'a', 'l', 's', 'e']
  | .number literal => literal.toList
  | .string text? => printString text?
  | .array [] => ['[', ']']
  | .array (item :: items) =>
      '[' :: newLine (depth + 1) ++ print (depth + 1) item ++ printItems (depth + 1) items ++
        newLine depth ++ [']']
  | .object [] => ['{', '}']
  | .object ((name, value) :: members) =>
      '{' :: newLine (depth + 1) ++ printString name ++ [':', ' '] ++ print (depth + 1) value ++
        printMembers (depth + 1) members ++ newLine depth ++ ['}']

def printItems (depth : Nat) : List Json → List Char
  | [] => []
  | item :: items => ',' :: newLine depth ++ print depth item ++ printItems depth items

def printMembers (depth : Nat) : List (Option String × Json) → List Char
  | [] => []
  | (name, value) :: members =>
      ',' :: newLine depth ++ printString name ++ [':', ' '] ++ print depth value ++
        printMembers depth members

end

def toText (value : Json) : String :=
  String.ofList (print 0 value)

end TextAdventure.Json
