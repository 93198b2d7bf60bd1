import TextAdventure.Json.Basic

/-!
# Reading values

The reader takes one character at a time.  It remembers what it is in the middle of, what may
come next, and the arrays and objects that are still open, innermost first; so it reads to any
depth.  The grammar is strict: no comments, no commas before a closing bracket, no control
characters in strings, no leading zeros, nothing after the value but blanks.
-/

set_option autoImplicit false

namespace TextAdventure.Json

/-- A character of a string literal, or a code unit given by an escape. -/
inductive CodeUnit where
  | char (c : Char)
  | code (n : Nat)
deriving DecidableEq

/-- The text that a string literal spells: the escaped code units must be characters by
themselves or pair up to characters. -/
def decodeUnits : List CodeUnit → Option (List Char)
  | [] => some []
  | .char c :: rest => (decodeUnits rest).map (c :: ·)
  | .code n :: .code m :: rest =>
      if 0xD800 ≤ n && n < 0xDC00 then
        if 0xDC00 ≤ m && m < 0xE000 then
          (decodeUnits rest).map
            (Char.ofNat (0x10000 + (n - 0xD800) * 0x400 + (m - 0xDC00)) :: ·)
        else none
      else if 0xDC00 ≤ n && n < 0xE000 then none
      else (decodeUnits (.code m :: rest)).map (Char.ofNat n :: ·)
  | .code n :: rest =>
      if 0xD800 ≤ n && n < 0xE000 then none
      else (decodeUnits rest).map (Char.ofNat n :: ·)

/-- How far a number literal has come. -/
inductive NumberPhase where
  | minus
  | zero
  | whole
  | point
  | fraction
  | exponent
  | exponentSign
  | exponentDigits
deriving DecidableEq

namespace NumberPhase

def complete : NumberPhase → Bool
  | .zero | .whole | .fraction | .exponentDigits => true
  | .minus | .point | .exponent | .exponentSign => false

/-- The phase after one more character, if the literal goes on with it. -/
def next? (phase : NumberPhase) (c : Char) : Option NumberPhase :=
  let digit := c.isDigit
  let mark := c == 'e' || c == 'E'
  match phase with
  | .minus => if c == '0' then some .zero else if digit then some .whole else none
  | .zero => if c == '.' then some .point else if mark then some .exponent else none
  | .whole =>
      if digit then some .whole
      else if c == '.' then some .point
      else if mark then some .exponent
      else none
  | .point => if digit then some .fraction else none
  | .fraction => if digit then some .fraction else if mark then some .exponent else none
  | .exponent =>
      if c == '+' || c == '-' then some .exponentSign
      else if digit then some .exponentDigits
      else none
  | .exponentSign => if digit then some .exponentDigits else none
  | .exponentDigits => if digit then some .exponentDigits else none

end NumberPhase

/-- What the reader is in the middle of.  Letters and units already read stand last one
first. -/
inductive Token where
  | between
  | word (left : List Char) (value : Json)
  | number (phase : NumberPhase) (read : List Char)
  | string (read : List CodeUnit)
  | escape (read : List CodeUnit)
  | hex (read : List CodeUnit) (digits value : Nat)

/-- An array or object that is still open.  Its contents stand last one first; an object also
has the name of the member that is being read. -/
inductive Frame where
  | array (items : List Json)
  | object (members : List (Option String × Json)) (name : Option String)

/-- What may come next between tokens. -/
inductive Expected where
  | value
  | firstItem
  | firstName
  | name
  | colon
  | separator
  | nothing (result : Json)

structure State where
  token : Token
  expected : Expected
  frames : List Frame

namespace State

def start : State := ⟨.between, .value, []⟩

/-- The state after a whole value. -/
def deliver (value : Json) : List Frame → State
  | [] => ⟨.between, .nothing value, []⟩
  | .array items :: frames => ⟨.between, .separator, .array (value :: items) :: frames⟩
  | .object members name :: frames =>
      ⟨.between, .separator, .object ((name, value) :: members) name :: frames⟩

/-- The state after the opening bracket or first character of a value. -/
def openValue (frames : List Frame) (c : Char) : Option State :=
  match c with
  | '{' => some ⟨.between, .firstName, .object [] none :: frames⟩
  | '[' => some ⟨.between, .firstItem, .array [] :: frames⟩
  | '"' => some ⟨.string [], .value, frames⟩
  | 't' => some ⟨.word ['r', 'u', 'e'] (.bool true), .value, frames⟩
  | 'f' => some ⟨.word ['a', 'l', 's', 'e'] (.bool false), .value, frames⟩
  | 'n' => some ⟨.word ['u', 'l', 'l'] .null, .value, frames⟩
  | '-' => some ⟨.number .minus [c], .value, frames⟩
  | '0' => some ⟨.number .zero [c], .value, frames⟩
  | _ => if c.isDigit then some ⟨.number .whole [c], .value, frames⟩ else none

/-- The state after a closing bracket, which must belong to the innermost open frame. -/
def close (c : Char) : List Frame → Option State
  | .array items :: frames => if c = ']' then some (deliver (.array items.reverse) frames) else none
  | .object members _ :: frames =>
      if c = '}' then some (deliver (.object members.reverse) frames) else none
  | [] => none

def comma : List Frame → Option State
  | frames@(.array _ :: _) => some ⟨.between, .value, frames⟩
  | frames@(.object _ _ :: _) => some ⟨.between, .name, frames⟩
  | [] => none

/-- The state after a string literal, which is a member's name where one is expected. -/
def closeString (s : State) (text? : Option String) : State :=
  match s.expected, s.frames with
  | .name, .object members _ :: frames => ⟨.between, .colon, .object members text? :: frames⟩
  | _, frames => deliver (.string text?) frames

def isSpace (c : Char) : Bool :=
  c == ' ' || c == '\n' || c == '\r' || c == '\t'

def stepBetween (s : State) (c : Char) : Option State :=
  if isSpace c then some s
  else
    match s.expected with
    | .value => openValue s.frames c
    | .firstItem => if c = ']' then close c s.frames else openValue s.frames c
    | .firstName =>
        if c = '}' then close c s.frames
        else if c = '"' then some ⟨.string [], .name, s.frames⟩
        else none
    | .name => if c = '"' then some ⟨.string [], .name, s.frames⟩ else none
    | .colon => if c = ':' then some ⟨.between, .value, s.frames⟩ else none
    | .separator => if c = ',' then comma s.frames else close c s.frames
    | .nothing _ => none

def hexDigit? (c : Char) : Option Nat :=
  if c.isDigit then some (c.toNat - 48)
  else if 'a' ≤ c && c ≤ 'f' then some (c.toNat - 87)
  else if 'A' ≤ c && c ≤ 'F' then some (c.toNat - 55)
  else none

/-- The character that a one-letter escape stands for. -/
def escaped? (c : Char) : Option Char :=
  match c with
  | '"' => some '"'
  | '\\' => some '\\'
  | '/' => some '/'
  | 'b' => some '\x08'
  | 'f' => some '\x0c'
  | 'n' => some '\n'
  | 'r' => some '\r'
  | 't' => some '\t'
  | _ => none

def step (s : State) (c : Char) : Option State :=
  match s.token with
  | .between => s.stepBetween c
  | .word left value =>
      match left with
      | [] => none
      | [l] => if c = l then some (deliver value s.frames) else none
      | l :: left => if c = l then some { s with token := .word left value } else none
  | .number phase read =>
      match phase.next? c with
      | some phase => some { s with token := .number phase (c :: read) }
      | none =>
          if phase.complete then
            (deliver (.number (String.ofList read.reverse)) s.frames).stepBetween c
          else none
  | .string read =>
      if c = '"' then
        some (s.closeString ((decodeUnits read.reverse).map String.ofList))
      else if c = '\\' then some { s with token := .escape read }
      else if c.toNat < 0x20 then none
      else some { s with token := .string (.char c :: read) }
  | .escape read =>
      if c = 'u' then some { s with token := .hex read 0 0 }
      else (escaped? c).map fun e => { s with token := .string (.char e :: read) }
  | .hex read digits value =>
      (hexDigit? c).map fun d =>
        let value := value * 16 + d
        if digits = 3 then { s with token := .string (.code value :: read) }
        else { s with token := .hex read (digits + 1) value }

def finish (s : State) : Option Json :=
  let settled : State :=
    match s.token with
    | .number phase read =>
        if phase.complete then deliver (.number (String.ofList read.reverse)) s.frames else s
    | _ => s
  match settled.token, settled.expected with
  | .between, .nothing value => some value
  | _, _ => none

end State

/-- The value that a text spells, if it spells one. -/
def ofText? (s : String) : Option Json :=
  (s.toList.foldlM State.step State.start).bind State.finish

end TextAdventure.Json
