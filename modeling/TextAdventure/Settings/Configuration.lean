import TextAdventure.Text.Blank

/-!
# Configuration text

A configuration is a list of lines that each set a key to a string or a truth value, with blank
lines and comments in between.  Strings are written in double quotes with escapes or in single
quotes as they are; three quotes of a kind open a string of several lines.  This is the part of
the TOML format that has no tables and no other values; a text outside it is refused.

The readers take what is left of the text and give back what they leave of it.
-/

set_option autoImplicit false

namespace TextAdventure.Configuration

inductive Value where
  | text (s : String)
  | flag (b : Bool)
deriving DecidableEq

abbrev Rest := List Char

def isSpace (c : Char) : Bool := c == ' ' || c == '\t'

/-- Characters that a comment or a string may hold as they are: no control characters but the
tab. -/
def isPlain (c : Char) : Bool :=
  let n := c.toNat
  n == 9 || (0x20 ≤ n && n ≠ 0x7F)

def skipSpaces (cs : Rest) : Rest := cs.dropWhile isSpace

/-- The text after a line end, if one stands here. -/
def lineEnd? : Rest → Option Rest
  | '\n' :: rest => some rest
  | '\r' :: '\n' :: rest => some rest
  | _ => none

/-- The text after the end of a line that says no more, comment included. -/
def closeLine? (cs : Rest) : Option Rest :=
  let rest := skipSpaces cs
  let rest :=
    match rest with
    | '#' :: comment => comment.dropWhile isPlain
    | _ => rest
  match rest with
  | [] => some []
  | _ => lineEnd? rest

/-! ## Strings -/

def hexDigit? (c : Char) : Option Nat :=
  if c.isDigit then some (c.toNat - 48)
  else if 'a' ≤ c && c ≤ 'f' then some (c.toNat - 87)
  else if 'A' ≤ c && c ≤ 'F' then some (c.toNat - 55)
  else none

/-- The character of a given number of hexadecimal digits. -/
def codePoint? (digits : Nat) (cs : Rest) : Option (Char × Rest) := do
  let taken ← (cs.take digits).mapM hexDigit?
  if taken.length < digits then none
  else
    let n := taken.foldl (fun n d => n * 16 + d) 0
    if n < 0xD800 || (0xE000 ≤ n && n < 0x110000) then
      some (Char.ofNat n, cs.drop digits)
    else none

/-- The character of an escape, after its backslash. -/
def escape? : Rest → Option (Char × Rest)
  | 'b' :: rest => some ('\x08', rest)
  | 't' :: rest => some ('\t', rest)
  | 'n' :: rest => some ('\n', rest)
  | 'f' :: rest => some ('\x0c', rest)
  | 'r' :: rest => some ('\r', rest)
  | '"' :: rest => some ('"', rest)
  | '\\' :: rest => some ('\\', rest)
  | 'u' :: rest => codePoint? 4 rest
  | 'U' :: rest => codePoint? 8 rest
  | _ => none

/-- The text after all spaces and line ends that stand here. -/
def skipLines : Rest → Rest
  | '\n' :: rest => skipLines rest
  | '\r' :: '\n' :: rest => skipLines rest
  | c :: rest => if isSpace c then skipLines rest else c :: rest
  | [] => []

/-- The text after a line end that a backslash hides, with all blank space that follows it. -/
def hiddenLineEnd? (cs : Rest) : Option Rest :=
  (lineEnd? (skipSpaces cs)).map skipLines

/-- Three quotes of one kind at the start of a text, after as many more as the string may still
hold, and the text after them. -/
def closing? (quote : Char) (cs : Rest) : Option (List Char × Rest) :=
  let run := (cs.takeWhile (· == quote)).length
  if run < 3 then none
  else if run ≤ 5 then some (List.replicate (run - 3) quote, cs.drop run)
  else none

/-- How a string is written: in which quotes, whether with escapes, and whether over several
lines. -/
structure StringKind where
  quote : Char
  escapes : Bool
  long : Bool

/-- A string up to its closing quotes, and the text after them; `said` is the string so far, the
last character first.  Each step uses up at least one character of the text. -/
def stringWithin (kind : StringKind) (said : List Char) : Nat → Rest → Option (String × Rest)
  | 0, _ => none
  | _, [] => none
  | fuel + 1, c :: rest =>
      if c = kind.quote then
        if kind.long then
          match closing? kind.quote (c :: rest) with
          | some (held, rest) => some (String.ofList (said.reverse ++ held), rest)
          | none =>
              if ((c :: rest).takeWhile (· == kind.quote)).length < 3 then
                stringWithin kind (c :: said) fuel rest
              else none
        else some (String.ofList said.reverse, rest)
      else if c = '\\' && kind.escapes then
        match (if kind.long then hiddenLineEnd? rest else none), escape? rest with
        | some rest, _ => stringWithin kind said fuel rest
        | none, some (e, rest) => stringWithin kind (e :: said) fuel rest
        | none, none => none
      else if isPlain c then stringWithin kind (c :: said) fuel rest
      else if kind.long then
        match lineEnd? (c :: rest) with
        | some rest => stringWithin kind ('\n' :: said) fuel rest
        | none => none
      else none

/-- A string of several lines begins after the line end that follows its quotes. -/
def string? (kind : StringKind) (cs : Rest) : Option (String × Rest) :=
  let body := if kind.long then (lineEnd? cs).getD cs else cs
  stringWithin kind [] (body.length + 1) body

/-! ## Keys and values -/

def value? : Rest → Option (Value × Rest)
  | '"' :: '"' :: '"' :: rest =>
      (string? ⟨'"', true, true⟩ rest).map fun (s, rest) => (.text s, rest)
  | '"' :: rest => (string? ⟨'"', true, false⟩ rest).map fun (s, rest) => (.text s, rest)
  | '\'' :: '\'' :: '\'' :: rest =>
      (string? ⟨'\'', false, true⟩ rest).map fun (s, rest) => (.text s, rest)
  | '\'' :: rest => (string? ⟨'\'', false, false⟩ rest).map fun (s, rest) => (.text s, rest)
  | 't' :: 'r' :: 'u' :: 'e' :: rest => some (.flag true, rest)
  | 'f' :: 'a' :: 'l' :: 's' :: 'e' :: rest => some (.flag false, rest)
  | _ => none

def isKeyChar (c : Char) : Bool := c.isAlphanum || c == '_' || c == '-'

def key? : Rest → Option (String × Rest)
  | '"' :: rest => string? ⟨'"', true, false⟩ rest
  | '\'' :: rest => string? ⟨'\'', false, false⟩ rest
  | cs =>
      match cs.takeWhile isKeyChar with
      | [] => none
      | letters => some (String.ofList letters, cs.dropWhile isKeyChar)

/-- A key and its value, up to the end of their line. -/
def setting? (cs : Rest) : Option ((String × Value) × Rest) := do
  let (key, rest) ← key? cs
  match skipSpaces rest with
  | '=' :: rest =>
      let (value, rest) ← value? (skipSpaces rest)
      let rest ← closeLine? rest
      return ((key, value), rest)
  | _ => none

/-- The settings of a text.  Each line uses up at least one character of it. -/
def settingsWithin : Nat → Rest → Option (List (String × Value))
  | _, [] => some []
  | 0, _ => none
  | fuel + 1, cs =>
      match closeLine? cs with
      | some rest => settingsWithin fuel rest
      | none => do
          let (setting, rest) ← setting? (skipSpaces cs)
          let settings ← settingsWithin fuel rest
          return setting :: settings

/-- The settings that a text makes, each key once.  A byte order mark at the start is skipped. -/
def ofText? (text : String) : Option (List (String × Value)) := do
  let cs :=
    match text.toList with
    | '\ufeff' :: rest => rest
    | cs => cs
  let settings ← settingsWithin cs.length cs
  if (settings.map (·.1)).Nodup then some settings else none

end TextAdventure.Configuration
