import TextAdventure.Text.WidthTable

/-!
# Display width

How many columns of a terminal a text takes.  Control sequences, which begin with an escape
character and set colours and the like, take none and are skipped.
-/

set_option autoImplicit false

namespace TextAdventure.Text

/-- Characters that are drawn as several letters, and how many columns they take. -/
def compositeWidths : List (Char × Nat) := [('\u17a4', 2), ('\u17d8', 3)]

/-- The columns of one character: none for a control character or a mark on another one, two for a
wide one. -/
def charWidth (c : Char) : Nat :=
  let n := c.toNat
  if n < 0x20 || (0x7F ≤ n && n < 0xA0) then 0
  else if n < 0x7F then 1
  else if zeroWidthRanges.has c then 0
  else if wideRanges.has c then 2
  else (compositeWidths.lookup c).getD 1

/-- Whether a character is of an East Asian script, or as wide as one. -/
def isEastAsian (c : Char) : Bool :=
  0x1100 ≤ c.toNat && (wideRanges.has c || narrowEastAsianRanges.has c)

/-- A piece of a text: a character that is seen, or a control sequence as a whole. -/
inductive Glyph where
  | seen (c : Char)
  | control (sequence : List Char)
deriving DecidableEq

namespace Glyph

def chars : Glyph → List Char
  | seen c => [c]
  | control sequence => sequence

def width : Glyph → Nat
  | seen c => charWidth c
  | control _ => 0

def seen? : Glyph → Option Char
  | seen c => some c
  | control _ => none

end Glyph

/-- How far a control sequence has come. -/
inductive ControlPhase where
  | outside
  | escaped
  /-- After a bracket: up to a character from `@` to `~`. -/
  | parameters
  /-- An operating system command: up to a bell, or an escape and a backslash. -/
  | command (afterEscape : Bool)

def escapeChar : Char := '\x1b'

/-- The pieces of a text; `held` is the control sequence so far, the last character first.  A
sequence that does not end takes all the rest. -/
def glyphsFrom (phase : ControlPhase) (held : List Char) : List Char → List Glyph
  | [] =>
      match phase with
      | .outside => []
      | _ => [.control held.reverse]
  | c :: rest =>
      match phase with
      | .outside =>
          if c = escapeChar then glyphsFrom .escaped [c] rest
          else .seen c :: glyphsFrom .outside [] rest
      | .escaped =>
          if c = '[' then glyphsFrom .parameters (c :: held) rest
          else if c = ']' then glyphsFrom (.command false) (c :: held) rest
          else .control (c :: held).reverse :: glyphsFrom .outside [] rest
      | .parameters =>
          if '@' ≤ c && c ≤ '~' then
            .control (c :: held).reverse :: glyphsFrom .outside [] rest
          else glyphsFrom .parameters (c :: held) rest
      | .command afterEscape =>
          if c = '\x07' || (c = '\\' && afterEscape) then
            .control (c :: held).reverse :: glyphsFrom .outside [] rest
          else glyphsFrom (.command (c = escapeChar)) (c :: held) rest

def glyphs (cs : List Char) : List Glyph :=
  glyphsFrom .outside [] cs

def width (cs : List Char) : Nat :=
  (glyphs cs).foldl (fun columns glyph => columns + glyph.width) 0

end TextAdventure.Text
