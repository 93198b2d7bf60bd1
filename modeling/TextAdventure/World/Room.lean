import TextAdventure.Data.NameMap
import TextAdventure.Text.Case
import TextAdventure.World.Holding

/-!
# Rooms

A room lists the rooms one can walk to from it, and may also name them by direction.  A blocker
keeps the player out until an objective is complete.
-/

set_option autoImplicit false

namespace TextAdventure

structure Blocker where
  /-- The objective that lifts the blocker. -/
  objective : String
  message : String
deriving DecidableEq

structure Room where
  name : String
  /-- Fragments, each under the name of what it tells of. -/
  description : List (String × String) := []
  shortDescription : String := ""
  exits : List String := []
  directionalExits : NameMap String := ∅
  aliases : List String := []
  blockers : List Blocker := []
  inventory : List String := []
  startingInventory : List String := []
deriving DecidableEq

namespace Room

/-- Whether the room goes by a name, ASCII case aside. -/
def answersTo (room : Room) (name : String) : Bool :=
  Text.sameName room.name name || room.aliases.any fun other => Text.sameName other name

def leadsTo (room : Room) (name : String) : Bool :=
  room.exits.contains name

def directionalExit? (room : Room) (direction : String) : Option String :=
  room.directionalExits.find? direction

def holds (room : Room) (item : String) : Bool :=
  room.inventory.contains item

def place (room : Room) (item : String) : Room :=
  { room with inventory := addName item room.inventory }

def remove (room : Room) (item : String) : Room :=
  { room with inventory := removeName item room.inventory }

end Room

end TextAdventure
