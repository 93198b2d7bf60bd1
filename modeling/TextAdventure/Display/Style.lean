import TextAdventure.Dialogue
import TextAdventure.Display.Layout

/-!
# Colours

Each line is shown in the style of what it is, set by a control sequence and reset after it.  A
text that resets the style within itself takes it up again right after.  Without colours the text
stands alone.
-/

set_option autoImplicit false

namespace TextAdventure

inductive Style where
  | description
  | failure
  | picture
  | prompt
deriving DecidableEq

namespace Style

/-- The parameters of the control sequence that sets a style. -/
def parameters : Style → String
  | description => "38;2;102;208;250"
  | failure => "3;38;2;200;50;50"
  | picture => "38;2;220;180;40"
  | prompt => "1;38;2;230;230;30"

def start (style : Style) : String :=
  "\x1b[" ++ style.parameters ++ "m"

/-- The control sequence that ends every style. -/
def reset : String := "\x1b[0m"

def paint (colored : Bool) (style : Style) (text : String) : String :=
  if colored then style.start ++ (reset ++ style.start).intercalate (text.splitOn reset) ++ reset
  else text

def ofLine (status : Status) (isArt : Bool) : Style :=
  if isArt then picture else if status = .success then description else failure

end Style

/-- A stretch of text as it is written to a terminal, with a pause in milliseconds after each
character. -/
structure Piece where
  text : String
  pause : Nat := 0
deriving DecidableEq

namespace Piece

def join (pieces : List Piece) : String :=
  String.join (pieces.map (·.text))

/-- The pause after a character of a picture. -/
def picturePause : Nat := 2

/-- What stands before the place where a line is typed. -/
def inputPrompt : Piece := ⟨"    ", 0⟩

end Piece

structure Terminal where
  colored : Bool
  /-- Whether text appears at once, whatever its speed. -/
  instant : Bool

namespace Terminal

def pause (t : Terminal) (speed : Speed) (isArt : Bool) : Nat :=
  if t.instant then 0 else if isArt then Piece.picturePause else speed.delay

def response (t : Terminal) (r : Response) (speed : Speed) : List Piece :=
  (r.lay displayWidth).map fun line =>
    ⟨(Style.ofLine r.status line.isArt).paint t.colored line.text ++ "\n",
      t.pause speed line.isArt⟩

def prompt (t : Terminal) (text : String) (speed : Speed) : List Piece :=
  [⟨"\n" ++ indent ++ Style.prompt.paint t.colored text ++ "\n", t.pause speed false⟩]

def shown (t : Terminal) : Shown → List Piece
  | .response r speed => t.response r speed
  | .question text speed => t.response (.success text) speed ++ [Piece.inputPrompt]
  | .prompt text speed => t.prompt text speed ++ [Piece.inputPrompt]

def transcript (t : Terminal) (d : Dialogue) : List Piece :=
  d.transcript.reverse.flatMap t.shown

end Terminal

end TextAdventure
