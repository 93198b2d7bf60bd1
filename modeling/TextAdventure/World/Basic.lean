import TextAdventure.Data.UpdateFirst
import TextAdventure.World.Item
import TextAdventure.World.Objective
import TextAdventure.World.Player
import TextAdventure.World.Room

/-!
# The world

Rooms, items and objectives are found by name, the first of a name first.  A room or item is
looked up either by its exact name, as inventories and exits refer to it, or by any name it
answers to, as the player refers to it.  What is at hand is what the player carries and what
lies in the current room.
-/

set_option autoImplicit false

namespace TextAdventure

structure World where
  rooms : List Room := []
  items : List Item := []
  objectives : List Objective := []
  player : Player := {}
  /-- Whether anything worth saving has changed since the last save or load. -/
  dirty : Bool := false
deriving DecidableEq, Inhabited

namespace World

/-! ## Looking things up -/

/-- The room the player is in, by its exact name. -/
def currentRoom? (w : World) : Option Room :=
  w.rooms.find? (·.name == w.player.location)

theorem currentRoom?_name {w : World} {room : Room} (here : w.currentRoom? = some room) :
    room.name = w.player.location := by
  simpa using List.find?_some here

/-- The first room that answers to a name. -/
def room? (w : World) (name : String) : Option Room :=
  w.rooms.find? (·.answersTo name)

/-- The first item that answers to a name, wherever it is. -/
def item? (w : World) (name : String) : Option Item :=
  w.items.find? (·.answersTo name)

/-- The first item of exactly this name. -/
def record? (w : World) (name : String) : Option Item :=
  w.items.find? (·.name == name)

theorem record?_name {w : World} {name : String} {item : Item}
    (record : w.record? name = some item) : item.name = name := by
  simpa using List.find?_some record

def objective? (w : World) (name : String) : Option Objective :=
  w.objectives.find? (·.name == name)

/-- The first of the held items that answers to a name. -/
def heldItem? (w : World) (held : List String) (name : String) : Option Item :=
  (held.filterMap w.record?).find? (·.answersTo name)

def lyingHere (w : World) : List String :=
  match w.currentRoom? with
  | some room => room.inventory
  | none => []

/-- The item at hand that answers to a name; one that is carried comes first. -/
def nearbyItem? (w : World) (name : String) : Option Item :=
  (w.heldItem? w.player.inventory name).or (w.heldItem? w.lyingHere name)

/-- Whether an item of exactly this name lies in the current room. -/
def inRoom (w : World) (item : String) : Bool :=
  w.lyingHere.contains item

/-- Whether an item of exactly this name is at hand. -/
def nearby (w : World) (item : String) : Bool :=
  w.player.holds item || w.inRoom item

/-! ## Changing things -/

def updateItem (w : World) (name : String) (change : Item → Item) : World :=
  { w with items := updateFirst (·.name == name) change w.items }

def updateRoom (w : World) (change : Room → Room) : World :=
  { w with rooms := updateFirst (·.name == w.player.location) change w.rooms }

def updatePlayer (w : World) (change : Player → Player) : World :=
  { w with player := change w.player }

def touch (w : World) : World :=
  { w with dirty := true }

/-- Take an item out of everything at hand. -/
def removeNearby (w : World) (item : String) : World :=
  (w.updatePlayer (·.remove item)).updateRoom (·.remove item)

/-- Put the player into a room, known by its exact name. -/
def movePlayer (w : World) (room : String) : World :=
  (w.updatePlayer fun player => { player with location := room }.visit room).touch

/-! ## Objectives and victory -/

/-- Whether a required item is within reach: carried, or fixed in the current room. -/
def meetsRequirement (w : World) (item : String) : Bool :=
  w.player.holds item ||
    (w.inRoom item && w.items.any fun other => other.name == item && !other.collectible)

def complete (w : World) (objective : Objective) : Bool :=
  objective.requires.all w.meetsRequirement && objective.markersComplete

def allComplete (w : World) : Bool :=
  w.objectives.all w.complete

/-- Let the player win if there are objectives and all are complete; a player who has won stays
a winner. -/
def checkVictory (w : World) : World :=
  if !w.player.won && !w.objectives.isEmpty && w.allComplete then
    (w.updatePlayer fun player => { player with won := true }).touch
  else w

/-! ## Rooms as they are seen -/

/-- Whether an objective that a blocker names exists and is still open. -/
def blocks (w : World) (blocker : Blocker) : Bool :=
  match w.objective? blocker.objective with
  | some objective => !w.complete objective
  | none => false

/-- The message of the first blocker that keeps the player out of a room. -/
def unmetBlocker? (w : World) (room : Room) : Option String :=
  (room.blockers.find? w.blocks).map (·.message)

/-- Whether a fragment of a room's description is shown.  One about an item that was there from
the start is shown as long as the item has not been found and is not hidden. -/
def showsFragment (w : World) (room : Room) (key : String) : Bool :=
  if room.startingInventory.contains key then
    match w.record? key with
    | some item => item.collectible && !item.discovered && !item.hidden
    | none => false
  else true

def describe (w : World) (room : Room) : String :=
  " ".intercalate
    ((room.description.filter fun fragment => w.showsFragment room fragment.1).map (·.2))

/-- The found, collectible items that lie in a room. -/
def droppedItems (w : World) (room : Room) : List Item :=
  (room.inventory.filterMap w.record?).filter fun item => item.collectible && item.discovered

end World

end TextAdventure
