import TextAdventure.Data.NameMap
import TextAdventure.Text.Case

/-!
# Items

An item can be looked at, carried if it is collectible, and acted on.  An interaction says what
acting on the item in one way needs and does.
-/

set_option autoImplicit false

namespace TextAdventure

/-- One item made into another.  Without `source` an item appears; without `result` one is used
up. -/
structure Transform where
  source : Option String := none
  result : Option String := none
deriving DecidableEq

structure Interaction where
  message : String := ""
  /-- The item's description from then on. -/
  newDescription : Option (List String) := none
  /-- Items that must be at hand and found. -/
  requires : List String := []
  transforms : List Transform := []
  unhides : List String := []
  unlocks : List String := []
  discovers : List String := []
deriving DecidableEq

structure Item where
  name : String
  aliases : List String := []
  description : List String := []
  /-- What a closer look shows, each line under the name of what it tells of. -/
  lookLines : List (String × String) := []
  collectible : Bool := false
  discovered : Bool := false
  interactions : NameMap Interaction := ∅
  locked : Bool := false
  hidden : Bool := false
deriving DecidableEq

namespace Item

/-- Whether the item goes by a name, ASCII case aside. -/
def answersTo (item : Item) (name : String) : Bool :=
  Text.sameName item.name name || item.aliases.any fun other => Text.sameName other name

def fullDescription (item : Item) : String :=
  " ".intercalate item.description

def displayName (item : Item) : String :=
  Text.capitalize item.name

def summary (item : Item) : String :=
  item.displayName ++ " - " ++ item.fullDescription

/-- Whether the player knows of the item; one that is fixed in its place is there to be
seen. -/
def known (item : Item) : Bool :=
  item.discovered || !item.collectible

/-- What acting on the item in the given way does. -/
def interaction? (item : Item) (action : String) : Option Interaction :=
  item.interactions.find? action

end Item

end TextAdventure
