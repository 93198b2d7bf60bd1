import TextAdventure.World.Holding

/-!
# The player
-/

set_option autoImplicit false

namespace TextAdventure

structure Player where
  name : String := ""
  /-- The name of the room the player is in. -/
  location : String := "entry"
  visitedRooms : List String := []
  inventory : List String := []
  won : Bool := false
  watchedCredits : Bool := false
deriving DecidableEq, Inhabited

namespace Player

def holds (player : Player) (item : String) : Bool :=
  player.inventory.contains item

def take (player : Player) (item : String) : Player :=
  { player with inventory := addName item player.inventory }

def remove (player : Player) (item : String) : Player :=
  { player with inventory := removeName item player.inventory }

def hasVisited (player : Player) (room : String) : Bool :=
  player.visitedRooms.contains room

def visit (player : Player) (room : String) : Player :=
  { player with visitedRooms := addName room player.visitedRooms }

end Player

end TextAdventure
