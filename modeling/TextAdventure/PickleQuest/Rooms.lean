import TextAdventure.World.Room

/-!
# The rooms

A small house of four rooms.  The pantry stays closed to the player until there is light.
-/

set_option autoImplicit false

namespace TextAdventure.PickleQuest

def entry : Room where
  name := "entry"
  description := [
    ("intro",
      "You stand in the entry of a small, cluttered house. Coats sag from their hooks and a " ++
        "doormat greets you with the words GO AWAY in cheerful letters."),
    ("exits", "The kitchen lies to the north and the living room to the east.")]
  shortDescription := "The entry. The kitchen is north and the living room is east."
  exits := ["kitchen", "living room"]
  directionalExits := .ofList [("north", "kitchen"), ("east", "living room")]
  aliases := ["foyer", "hallway"]
  inventory := ["doormat"]

def kitchen : Room where
  name := "kitchen"
  description := [
    ("intro",
      "The kitchen smells faintly of vinegar. A sink sits beneath a grimy window and a drawer " ++
        "hangs slightly open beside it."),
    ("fork", "On the counter, a single fork gleams with purpose."),
    ("exits", "The entry is back to the south. A narrow pantry door stands to the east.")]
  shortDescription := "The kitchen. The entry is south and the pantry is east."
  exits := ["entry", "pantry"]
  directionalExits := .ofList [("south", "entry"), ("east", "pantry")]
  inventory := ["sink", "drawer", "fork"]
  startingInventory := ["fork"]

def pantry : Room where
  name := "pantry"
  description := [
    ("intro",
      "Shelves of dusty jars line the pantry walls, lit by the shaky beam of your flashlight."),
    ("pickle jar", "On the top shelf sits a jar of pickles, its lid screwed on impossibly tight."),
    ("exits", "The kitchen is back to the west.")]
  shortDescription := "The pantry. The kitchen is west."
  exits := ["kitchen"]
  directionalExits := .ofList [("west", "kitchen")]
  aliases := ["larder"]
  blockers := [
    {
      objective := "light the pantry"
      message :=
        "The pantry is pitch black. You would rather not stumble around in there without a " ++
          "light." }]
  inventory := ["shelves", "pickle jar"]
  startingInventory := ["pickle jar"]

def livingRoom : Room where
  name := "living room"
  description := [
    ("intro",
      "A lumpy couch faces a piano that nobody has tuned in years. A floor lamp leans in the " ++
        "corner like it has given up."),
    ("exits", "The entry is back to the west.")]
  shortDescription := "The living room. The entry is west."
  exits := ["entry"]
  directionalExits := .ofList [("west", "entry")]
  aliases := ["lounge"]
  inventory := ["couch", "piano", "lamp", "remote"]

def rooms : List Room := [entry, kitchen, pantry, livingRoom]

end TextAdventure.PickleQuest
