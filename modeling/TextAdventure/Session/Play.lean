import TextAdventure.Turn.Dispatch

/-!
# The stages of a session

A session opens with its title, goes on with the choice of a game and then turn after turn, and
closes with the offer to save.  Each stage yields what is to be shown, each response with the
speed at which it appears.
-/

set_option autoImplicit false

namespace TextAdventure

/-- Responses to be shown, each at its speed. -/
abbrev Printout := List (Response × Speed)

namespace Reply

def loadPrompt : String := "Would you like to load a saved game? (y/n)"

def turnPrompt : String := "What would you like to do?"

def savePrompt : String :=
  "It looks like there are unsaved changes. Would you like to save the game?"

def notSaved : String := "Your game has not been saved."

def farewell : String := "You have chosen to exit the game. Thanks for playing!"

end Reply

namespace Game

/-- The title picture and the opening stories. -/
def opening (g : Game) : Printout :=
  [(g.picture (some "intro_art"), g.speed),
    (g.story (some "title"), g.speed),
    (g.story (some "introduction"), g.speed)]

/-- Ask which game to play, as long as there is a saved one to ask for. -/
def askMode (g : Game) : LoadMode × Game :=
  if g.hasSavedGame then
    let (yes, g) := g.confirm Reply.loadPrompt
    (if yes then .resume else .new, g)
  else (.new, g)

/-- The view that a game starts with. -/
def firstLook (g : Game) : Response × Speed :=
  (g.world.look g.vocabulary none, g.speed)

/-- Choose a game, asking at most `tries` more times after a saved game that cannot be loaded. -/
def chooseWithin : Nat → Game → Printout × Game
  | 0, g => ([], g)
  | tries + 1, g =>
      let (mode, g) := g.askMode
      let outcome := g.loadCommand mode
      let shown := (outcome.response, outcome.state.speed)
      match outcome.response.status with
      | .success => ([shown, outcome.state.firstLook], outcome.state)
      | .error => ([shown], outcome.state)
      | .failure =>
          let (more, g) := chooseWithin tries outcome.state
          (shown :: more, g)

/-- Resume a saved game or start a new one.  A saved game that cannot be loaded is asked about
again, and every answer uses up a line of input; when there are no lines left a new game is
started. -/
def choose (g : Game) : Printout × Game :=
  chooseWithin (g.dialogue.pending.length + 1) g

/-- The ending, on the first turn after which the game is won. -/
def rollCredits (g : Game) : Printout × Game :=
  if g.world.player.won && !g.world.player.watchedCredits then
    ([(g.story (some "ending"), .slow)],
      g.withWorld (g.world.updatePlayer fun player => { player with watchedCredits := true }).touch)
  else ([], g)

/-- Answer one line of the player. -/
def takeTurn (g : Game) (line : String) : Printout × Game :=
  let outcome := g.respond line true
  let (credits, g) := outcome.state.rollCredits
  ((outcome.response, outcome.state.speed) :: credits, g)

/-- Offer to save what is not saved. -/
def offerSave (g : Game) : Printout × Game :=
  if g.world.dirty then
    let (yes, g) := g.confirm Reply.savePrompt
    let outcome := if yes then g.saveCommand else g.answer (.success Reply.notSaved)
    ([(outcome.response, outcome.state.speed)], outcome.state)
  else ([], g)

/-- Offer to save, and say goodbye. -/
def closing (g : Game) : Printout × Game :=
  let (offered, g) := g.offerSave
  (offered ++ [(.success Reply.farewell, g.speed)], g)

end Game

end TextAdventure
