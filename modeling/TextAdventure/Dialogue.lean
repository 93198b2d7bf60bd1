import TextAdventure.Display.Response
import TextAdventure.Language.Speed

/-!
# The dialogue with the player

Lines of input still to be read, and what has been shown.  Commands and answers to questions
are read from the same lines, each line once.
-/

set_option autoImplicit false

namespace TextAdventure

/-- A line of input, which may turn out to be no text. -/
inductive InputLine where
  | text (line : String)
  | garbled
deriving DecidableEq

/-- Something that was shown to the player, and the speed at which it appeared. -/
inductive Shown where
  | response (r : Response) (speed : Speed)
  /-- A question, with room for its answer. -/
  | question (text : String) (speed : Speed)
  /-- The request for a command, with room for it. -/
  | prompt (text : String) (speed : Speed)
deriving DecidableEq

namespace Shown

/-- Whether a line of input is read after this. -/
def asks : Shown → Bool
  | response _ _ => false
  | question _ _ | prompt _ _ => true

end Shown

structure Dialogue where
  pending : List InputLine := []
  /-- What was shown, the latest first. -/
  transcript : List Shown := []
  /-- The speed at which questions appear. -/
  speed : Speed := .medium
deriving DecidableEq

namespace Dialogue

def put (d : Dialogue) (shown : Shown) : Dialogue :=
  { d with transcript := shown :: d.transcript }

/-- Ask a question and read its answer.  There is none when the input has ended or the line is no
text. -/
def ask (d : Dialogue) (question : String) : Option String × Dialogue :=
  let d := d.put (.question question d.speed)
  match d.pending with
  | [] => (none, d)
  | .garbled :: rest => (none, { d with pending := rest })
  | .text answer :: rest => (some answer, { d with pending := rest })

/-- All questions asked so far, the first one first. -/
def asked (d : Dialogue) : List String :=
  d.transcript.reverse.filterMap fun shown =>
    match shown with
    | .question text _ => some text
    | _ => none

end Dialogue

end TextAdventure
