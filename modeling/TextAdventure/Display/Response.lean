/-!
# Responses

What a command answers: a status and messages in order.  How the messages are laid out is
decided where they are shown.
-/

set_option autoImplicit false

namespace TextAdventure

inductive Status where
  | success
  | failure
  /-- The game cannot go on. -/
  | error
deriving DecidableEq, Inhabited

inductive Message where
  | blank
  /-- A line that is wrapped only if it is too long. -/
  | line (text : String)
  /-- Prose that is always wrapped. -/
  | paragraph (text : String)
  /-- Lines that are shown as they are. -/
  | art (lines : List String)
deriving DecidableEq

structure Response where
  status : Status
  messages : List Message
deriving DecidableEq

/-- A command's effect: what it leaves and what it answers. -/
structure Outcome (σ : Type) where
  state : σ
  response : Response

namespace Message

def text : Message → List String
  | blank => []
  | line text => [text]
  | paragraph text => [text]
  | art lines => lines

end Message

namespace Response

def empty : Response := ⟨.success, []⟩

def remark (status : Status) (text : String) : Response := ⟨status, [.blank, .line text]⟩

def success (text : String) : Response := remark .success text

def failure (text : String) : Response := remark .failure text

def error (text : String) : Response := remark .error text

def prose (status : Status) (text : String) : Response := ⟨status, [.blank, .paragraph text]⟩

def headed (header text : String) : Response :=
  ⟨.success, [.blank, .line header, .blank, .line text]⟩

def listing (header : String) (entries : List String) : Response :=
  ⟨.success, [.blank, .line header, .blank] ++ entries.map fun entry => .line (" - " ++ entry)⟩

def art (lines : List String) : Response := ⟨.success, [.blank, .art lines]⟩

def isSuccess (r : Response) : Bool := r.status = .success

def isFailure (r : Response) : Bool := r.status = .failure

def text (r : Response) : List String := r.messages.flatMap Message.text

/-- The response with the messages of another one after its own. -/
def extend (r other : Response) : Response := { r with messages := r.messages ++ other.messages }

end Response

end TextAdventure
