import TextAdventure.Text.AlphanumericTable
import TextAdventure.Text.Blank
import TextAdventure.Text.LineBreak
import TextAdventure.Text.Width

/-!
# Wrapping

A text that is too wide is cut into words, and the words are set in lines of least total cost.
A line costs a fixed amount, and more the further it falls short of the width or goes beyond it;
the last line may be short.  Of several settings of the same cost the one with the longest last
line is taken.
-/

set_option autoImplicit false

namespace TextAdventure.Text

/-- A piece of text that stays in one line, and the spaces after it. -/
structure Word where
  text : List Char
  spaces : List Char := []
deriving DecidableEq

namespace Word

/-- A stretch of text, the spaces at its end set apart. -/
def ofText (cs : List Char) : Word :=
  let spaces := cs.reverse.takeWhile (· == ' ')
  ⟨cs.take (cs.length - spaces.length), spaces⟩

def columns (w : Word) : Nat := width w.text

end Word

/-! ## Cutting a text into words -/

def softHyphen : Char := '\xad'

/-- The numbers of seen characters after which a text is cut.  It is not cut after a hyphen of
either kind, nor at the last place that is left, which is its end unless the text ends in a
hyphen. -/
def cuts (seen : List Char) : List Nat :=
  let places := (List.range' 1 seen.length).zip (seen.zip (breaksAfter seen))
  ((places.filter fun (_, c, breaks) => breaks && c != '-' && c != softHyphen).map (·.1)).dropLast

/-- Cut a text after the given numbers of seen characters, of which `count` have gone by; `held`
is the stretch since the last cut, the last character first. -/
def cutAt (held : List Char) (count : Nat) : List Nat → List Glyph → List (List Char)
  | _, [] => if held.isEmpty then [] else [held.reverse]
  | [], glyph :: rest => cutAt (glyph.chars.reverse ++ held) count [] rest
  | place :: places, .control sequence :: rest =>
      cutAt (sequence.reverse ++ held) count (place :: places) rest
  | place :: places, .seen c :: rest =>
      if count + 1 = place then (c :: held).reverse :: cutAt [] (count + 1) places rest
      else cutAt (c :: held) (count + 1) (place :: places) rest

def lineWords (cs : List Char) : List Word :=
  let pieces := glyphs cs
  (cutAt [] 0 (cuts (pieces.filterMap Glyph.seen?)) pieces).map Word.ofText

def isAlphanumeric (c : Char) : Bool :=
  c.isAlphanum || alphanumericRanges.has c

/-- Cut a word after each hyphen between two letters or digits; `held` is what came since the last
cut, the last character first. -/
def hyphenParts (held : List Char) : List Char → List (List Char)
  | [] => [held.reverse]
  | c :: rest =>
      let between := held.head?.any isAlphanumeric && rest.head?.any isAlphanumeric
      if c = '-' && between then (c :: held).reverse :: hyphenParts [] rest
      else hyphenParts (c :: held) rest

/-- Words from parts of one, the last of which keeps the spaces. -/
def partsWith (spaces : List Char) : List (List Char) → List Word
  | [] => []
  | [part] => [⟨part, spaces⟩]
  | part :: parts => ⟨part, []⟩ :: partsWith spaces parts

def splitHyphens (w : Word) : List Word :=
  partsWith w.spaces (hyphenParts [] w.text)

/-- Fill pieces of at most `limit` columns; `held` is the piece so far, the last character first,
of `taken` columns. -/
def fillPieces (limit : Nat) (held : List Char) (taken : Nat) : List Glyph → List (List Char)
  | [] => if held.isEmpty then [] else [held.reverse]
  | .control sequence :: rest => fillPieces limit (sequence.reverse ++ held) taken rest
  | .seen c :: rest =>
      if 0 < taken && limit < taken + charWidth c then
        held.reverse :: fillPieces limit [c] (charWidth c) rest
      else fillPieces limit (c :: held) (taken + charWidth c) rest

/-- A word in pieces that fit, if it is too wide. -/
def breakWide (limit : Nat) (w : Word) : List Word :=
  if limit < w.columns then partsWith w.spaces (fillPieces limit [] 0 (glyphs w.text)) else [w]

/-! ## Setting the words in lines -/

structure LineCosts where
  perLine : Nat
  /-- For each column beyond the width. -/
  overflow : Nat
  /-- For a last line of one word that is shorter than a part of the width. -/
  shortLast : Nat
  /-- The width divided by that part. -/
  shortPart : Nat

def lineCosts : LineCosts := ⟨1000, 2500, 25, 4⟩

/-- What a line of `columns` columns costs.  A line that is not the last pays the square of its
gap. -/
def lineCost (limit columns : Nat) (last single : Bool) : Nat :=
  let target := max limit 1
  lineCosts.perLine +
    (if target < columns then (columns - target) * lineCosts.overflow
    else if !last then (target - columns) * (target - columns)
    else if single && columns * lineCosts.shortPart < target then lineCosts.shortLast
    else 0)

/-- A setting of some words in lines: its cost, and the lines, the last one first. -/
structure Setting where
  cost : Nat
  lines : List (List Word)

/-- A word that a line may start with. -/
structure LineStart where
  word : Word
  columns : Nat
  /-- The best setting of what comes before the word. -/
  before : Setting

/-- The best of the settings whose last line ends with the words `line`, which take `columns`
columns up to the spaces at the end.  The words before it come last one first; `best` is the best
setting so far. -/
def bestSetting (limit : Nat) (last : Bool) (line : List Word) (columns : Nat) (best : Setting) :
    List LineStart → Setting
  | [] => best
  | ⟨word, wordColumns, before⟩ :: earlier =>
      let columns := columns + wordColumns + (if line.isEmpty then 0 else word.spaces.length)
      let single := line.isEmpty
      let cost := before.cost + lineCost limit columns last single
      let line := word :: line
      let best := if single || cost ≤ best.cost then ⟨cost, line :: before.lines⟩ else best
      bestSetting limit last line columns best earlier

/-- The best setting of all words, when those in `earlier` have gone by, last one first, and
`current` is the best setting of all of these. -/
def settleWords (limit : Nat) (earlier : List LineStart) (current : Setting) :
    List Word → Setting
  | [] => current
  | word :: rest =>
      let earlier := ⟨word, word.columns, current⟩ :: earlier
      settleWords limit earlier (bestSetting limit rest.isEmpty [] 0 current earlier) rest

def setLines (limit : Nat) (words : List Word) : List (List Word) :=
  (settleWords limit [] ⟨0, []⟩ words).lines.reverse

def lineText : List Word → List Char
  | [] => []
  | [word] => word.text
  | word :: words => word.text ++ word.spaces ++ lineText words

def wrapLine (limit : Nat) (line : String) : List String :=
  if line.utf8ByteSize < limit then [String.ofList (dropTail (· == ' ') line.toList)]
  else
    let words := ((lineWords line.toList).flatMap splitHyphens).flatMap (breakWide limit)
    match words with
    | [] => [""]
    | words => (setLines limit words).map (String.ofList ∘ lineText)

def wrap (limit : Nat) (text : String) : List String :=
  (text.splitOn "\n").flatMap (wrapLine limit)

end TextAdventure.Text
