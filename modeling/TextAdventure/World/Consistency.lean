import TextAdventure.World.Basic

/-!
# Consistency of a world

A world read from files may refer to rooms, items and objectives that do not exist, or hold an
item twice.  Such a world can be played all the same; the problems are only told.
-/

set_option autoImplicit false

namespace TextAdventure

inductive Problem where
  | lostPlayer (location : String)
  | carriesUnknown (item : String)
  | unknownExit (room exit : String)
  | strayDirection (room direction target : String)
  | holdsUnknown (room item : String)
  | heldTwice (item room : String)
  | unknownBlocker (room objective : String)
  | requiresUnknown (objective item : String)
  | marksUnknown (objective item : String)
deriving DecidableEq

namespace Problem

def quoted (name : String) : String := "'" ++ name ++ "'"

def message : Problem → String
  | lostPlayer location => "player starts in unknown room " ++ quoted location
  | carriesUnknown item => "player carries unknown item " ++ quoted item
  | unknownExit room exit => "room " ++ quoted room ++ " has exit to unknown room " ++ quoted exit
  | strayDirection room direction target =>
      "room " ++ quoted room ++ " points " ++ direction ++ " to " ++ quoted target ++
        ", which is not one of its exits"
  | holdsUnknown room item => "room " ++ quoted room ++ " holds unknown item " ++ quoted item
  | heldTwice item room =>
      "item " ++ quoted item ++ " is in both the player's and room " ++ quoted room ++
        "'s inventory"
  | unknownBlocker room objective =>
      "room " ++ quoted room ++ " is blocked by unknown objective " ++ quoted objective
  | requiresUnknown objective item =>
      "objective " ++ quoted objective ++ " requires unknown item " ++ quoted item
  | marksUnknown objective item =>
      "objective " ++ quoted objective ++ " tracks interaction on unknown item " ++ quoted item

end Problem

namespace World

def hasRoom (w : World) (name : String) : Bool :=
  w.rooms.any (·.name == name)

def hasItem (w : World) (name : String) : Bool :=
  w.items.any (·.name == name)

def hasObjective (w : World) (name : String) : Bool :=
  w.objectives.any (·.name == name)

def playerProblems (w : World) : List Problem :=
  (if w.hasRoom w.player.location then [] else [.lostPlayer w.player.location]) ++
    (w.player.inventory.filter (!w.hasItem ·)).map .carriesUnknown

def heldProblems (w : World) (room : Room) (item : String) : List Problem :=
  (if w.hasItem item then [] else [.holdsUnknown room.name item]) ++
    (if w.player.holds item then [.heldTwice item room.name] else [])

def roomProblems (w : World) (room : Room) : List Problem :=
  (room.exits.filter (!w.hasRoom ·)).map (.unknownExit room.name) ++
    (room.directionalExits.entries.filter (!room.leadsTo ·.2)).map
      (fun (direction, target) => .strayDirection room.name direction target) ++
    room.inventory.flatMap (w.heldProblems room) ++
    (room.blockers.filter (!w.hasObjective ·.objective)).map (.unknownBlocker room.name ·.objective)

def objectiveProblems (w : World) (objective : Objective) : List Problem :=
  (objective.requires.filter (!w.hasItem ·)).map (.requiresUnknown objective.name) ++
    (objective.markers.filter (!w.hasItem ·.item)).map (.marksUnknown objective.name ·.item)

/-- All that is wrong with a world: the player first, then each room, then each objective. -/
def problems (w : World) : List Problem :=
  w.playerProblems ++ w.rooms.flatMap w.roomProblems ++ w.objectives.flatMap w.objectiveProblems

end World

end TextAdventure
