import TextAdventure.PickleQuest.Items
import TextAdventure.PickleQuest.Objectives
import TextAdventure.PickleQuest.Rooms
import TextAdventure.PickleQuest.Texts
import TextAdventure.Storage.Adventure

/-!
# The quest for the pickle

The adventure that comes with the program: find a light, open the pickle jar and eat the pickle.
-/

set_option autoImplicit false

namespace TextAdventure.PickleQuest

def world : World := { rooms, items, objectives, player }

def adventure : Adventure := { world, helpLines, tables, stories, art }

end TextAdventure.PickleQuest
