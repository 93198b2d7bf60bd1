/-!
# Actions

Everything a line of input can ask for.  Actions on items have a key, under which an item lists
what the action does to it.
-/

set_option autoImplicit false

namespace TextAdventure

inductive Action where
  | exit
  | move
  | look
  | take
  | drop
  | tellStory
  | inspect
  | inventory
  | loadGame
  /-- Loading a game was asked for and then declined. -/
  | declineLoad
  | newGame
  | saveGame
  | help
  | use
  | pull
  | chew
  | objectives
  | aliases
  | sit
  | scroll
  | clean
  | drink
  | hint
  | showMap
  | climb
  | turnOn
  | openUp
  | play
  | flush
  | draw
  | unknown
deriving DecidableEq, Inhabited

/-- The kinds of action, each carried out by its own part of the game. -/
inductive Action.Group where
  | movement
  | housekeeping
  | carrying
  | interaction
deriving DecidableEq

namespace Action

/-- The key of an action in the interactions of an item. -/
def key? : Action → Option String
  | use => some "use"
  | chew => some "chew"
  | pull => some "pull"
  | sit => some "sit"
  | clean => some "clean"
  | drink => some "drink"
  | climb => some "climb"
  | turnOn => some "turn on"
  | openUp => some "open"
  | play => some "play"
  | flush => some "flush"
  | _ => none

/-- The group of an action; a declined load and an action that was not understood have none. -/
def group? : Action → Option Group
  | move | look => some .movement
  | exit | tellStory | saveGame | loadGame | newGame | help | objectives | aliases | scroll
  | hint | showMap | draw => some .housekeeping
  | take | drop | inventory | inspect => some .carrying
  | pull | chew | use | sit | clean | drink | climb | turnOn | openUp | play | flush =>
      some .interaction
  | declineLoad | unknown => none

end Action

end TextAdventure
