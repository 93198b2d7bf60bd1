import TextAdventure.World.Objective
import TextAdventure.World.Player

/-!
# The objectives and the player

Three objectives lead from a dark pantry to a pickle that has been eaten.
-/

set_option autoImplicit false

namespace TextAdventure.PickleQuest

def light : Objective where
  name := "light the pantry"
  hints := [
    "The pantry is far too dark to explore. Some light would help.",
    "Kitchens tend to keep useful odds and ends in a drawer.",
    "Open the drawer in the kitchen, then turn on what you find."]
  markers := [{ item := "flashlight", action := "turn on" }]

def liberate : Objective where
  name := "liberate the pickle"
  hints := [
    "That pickle jar is not going to open by hand.",
    "A sturdy piece of steel might give you some leverage.",
    "Carry both the fork and the pickle jar, then use the fork with the pickle jar."]
  requires := ["pickle"]

def savor : Objective where
  name := "savor the pickle"
  hints := ["You have come this far. Enjoy the reward.", "Try to chew the pickle."]
  markers := [{ item := "pickle", action := "chew" }]

def objectives : List Objective := [light, liberate, savor]

def player : Player where
  name := "Traveler"
  location := "entry"
  visitedRooms := ["entry"]

end TextAdventure.PickleQuest
