/-!
# Objectives

An objective asks for items within reach and for interactions to be performed.  Each
interaction it asks for has a marker that is set once and stays set.  Hints are revealed one at
a time and the count of those revealed is not part of a saved game.
-/

set_option autoImplicit false

namespace TextAdventure

structure Marker where
  item : String
  /-- The name of the action that sets the marker. -/
  action : String
  complete : Bool := false
deriving DecidableEq

structure Objective where
  name : String
  hints : List String := []
  requires : List String := []
  markers : List Marker := []
  hintCount : Nat := 0
deriving DecidableEq

namespace Marker

def record (item action : String) (marker : Marker) : Marker :=
  if marker.item = item && marker.action = action then { marker with complete := true } else marker

end Marker

namespace Objective

def markersComplete (objective : Objective) : Bool :=
  objective.markers.all (·.complete)

def record (item action : String) (objective : Objective) : Objective :=
  { objective with markers := objective.markers.map (Marker.record item action) }

/-- The objective with one more hint revealed, if there is one. -/
def revealHint (objective : Objective) : Objective :=
  { objective with hintCount := min (objective.hintCount + 1) objective.hints.length }

def revealedHints (objective : Objective) : List String :=
  objective.hints.take objective.hintCount

end Objective

end TextAdventure
