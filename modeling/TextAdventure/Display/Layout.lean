import TextAdventure.Display.Response
import TextAdventure.Text.Wrap

/-!
# Laying out a response

A response is shown as lines that are all indented alike.  A line message is wrapped only if it
has more characters than the width, prose is always wrapped, and pictures never are.
-/

set_option autoImplicit false

namespace TextAdventure

structure LaidLine where
  text : String
  isArt : Bool
deriving DecidableEq

def indent : String := "    "

/-- How many columns a line has, the indent aside. -/
def displayWidth : Nat := 80

namespace Message

def lay (width : Nat) : Message → List LaidLine
  | blank => [⟨"", false⟩]
  | line text =>
      if text.length ≤ width then [⟨indent ++ text, false⟩]
      else (Text.wrap width text).map fun l => ⟨indent ++ l, false⟩
  | paragraph text => (Text.wrap width text).map fun l => ⟨indent ++ l, false⟩
  | art lines => lines.map fun l => ⟨indent ++ l, true⟩

end Message

namespace Response

def lay (width : Nat) (r : Response) : List LaidLine :=
  r.messages.flatMap (Message.lay width)

end Response

end TextAdventure
