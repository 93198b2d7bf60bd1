import TextAdventure.Session.Play

/-!
# A whole session

A session shows the opening, has a game chosen, takes turns until the player leaves or the input
ends, and closes.  It fails only if a new game cannot be loaded or a line for a turn is no text.
Each turn uses up at least one line, so there are no more turns than lines.
-/

set_option autoImplicit false

namespace TextAdventure

/-- Why a session broke off. -/
inductive SessionError where
  | couldNotStart (answer : List String)
  | unrecoverable (answer : List String)
  | garbledInput
deriving DecidableEq

namespace SessionError

def message : SessionError → String
  | couldNotStart answer => "could not start a game: " ++ " ".intercalate answer
  | unrecoverable answer => "unrecoverable error: " ++ " ".intercalate answer
  | garbledInput => FileError.notText.message

end SessionError

/-- What a session leaves: the game, and why it broke off if it did. -/
structure SessionEnd where
  game : Game
  error? : Option SessionError

namespace Game

def put (g : Game) (shown : Shown) : Game :=
  { g with dialogue := g.dialogue.put shown }

def putAll (g : Game) (printout : Printout) : Game :=
  printout.foldl (fun g entry => g.put (.response entry.1 entry.2)) g

/-- The text of the first error in a printout. -/
def fatal? (printout : Printout) : Option (List String) :=
  (printout.find? fun entry => entry.1.status = .error).map fun entry => entry.1.text

/-- Offer to save and say goodbye. -/
def finish (g : Game) : SessionEnd :=
  let (printout, g) := g.closing
  ⟨g.putAll printout, none⟩

/-- Read a line for a turn. -/
def readLine (g : Game) : Option InputLine × Game :=
  match g.dialogue.pending with
  | [] => (none, g)
  | line :: rest => (some line, { g with dialogue := { g.dialogue with pending := rest } })

/-- Take at most `turns` turns. -/
def playWithin : Nat → Game → SessionEnd
  | 0, g => g.finish
  | turns + 1, g =>
      if !g.active then g.finish
      else
        match (g.put (.prompt Reply.turnPrompt g.speed)).readLine with
        | (none, g) => g.finish
        | (some .garbled, g) => ⟨g, some .garbledInput⟩
        | (some (.text line), g) =>
            if Text.isVoid line then playWithin turns g
            else
              let (printout, g) := g.takeTurn line
              let g := g.putAll printout
              match fatal? printout with
              | some answer => ⟨g, some (.unrecoverable answer)⟩
              | none => playWithin turns g

/-- Play the game from its opening to its end. -/
def play (g : Game) : SessionEnd :=
  let (printout, chosen) := (g.putAll g.opening).choose
  let started := chosen.putAll printout
  match fatal? printout with
  | some answer => ⟨started, some (.couldNotStart answer)⟩
  | none => playWithin (started.dialogue.pending.length + 1) started

end Game

end TextAdventure
