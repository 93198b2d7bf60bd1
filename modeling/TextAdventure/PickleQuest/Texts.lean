import TextAdventure.Language.Vocabulary

/-!
# The words, the stories and the pictures
-/

set_option autoImplicit false

namespace TextAdventure.PickleQuest

def helpLines : List String := [
  "move <room or direction> - walk somewhere (go, walk, head, or just say north, south, east, " ++
    "west)",
  "look - describe where you are",
  "inspect <item> - take a closer look at something (examine, look at)",
  "take <item> - pick something up (grab, pick up, get)",
  "drop <item> - put something down (put down, discard)",
  "inventory - list what you are carrying (i, bag)",
  "use <item> [with <item>] - use something, or use one thing with another",
  "open, pull, chew, sit on, clean, drink, climb, turn on, play, flush <item> - do things with " ++
    "things",
  "hint - think hard about what to do next",
  "alias <word> - list other words that mean the same thing",
  "scroll <fast|medium|slow|off> - change how quickly text appears",
  "map - look at the map",
  "save, load, new - save your game, load your saved game, or start over",
  "exit - leave the game"]

def tables : List (String × List String) := [
  ("move_requests", ["move", "go", "walk", "head", "travel"]),
  ("look_requests", ["look", "look around"]),
  ("take_requests", ["take", "grab", "get", "pick up", "collect"]),
  ("drop_requests", ["drop", "put down", "discard", "leave"]),
  ("exit_requests", ["exit", "quit", "bye"]),
  ("inspect_requests", ["inspect", "examine", "look at", "check out", "study"]),
  ("save_requests", ["save", "savegame", "save game"]),
  ("load_requests", ["load", "loadgame", "load game"]),
  ("new_game_requests", ["new", "newgame", "new game", "restart"]),
  ("inventory_requests", ["inventory", "i", "bag", "items"]),
  ("game_story_requests", ["wax lyrical"]),
  ("help_requests", ["help", "commands"]),
  ("use_requests", ["use", "apply"]),
  ("chew_requests", ["chew", "bite", "eat", "munch"]),
  ("pull_requests", ["pull", "yank", "tug"]),
  ("objective_requests", ["objectives", "goals"]),
  ("alias", ["alias", "aliases", "synonyms"]),
  ("sit_requests", ["sit", "sit on", "sit down"]),
  ("scroll_requests", ["scroll", "text speed"]),
  ("clean_requests", ["clean", "wipe", "wash", "rinse", "scrub"]),
  ("drink_requests", ["drink", "sip", "slurp"]),
  ("hints", ["hint", "hints", "ponder", "think"]),
  ("game_map", ["map", "show map"]),
  ("climb_requests", ["climb", "climb up", "scale"]),
  ("turn_on_requests", ["turn on", "switch on", "power on", "light"]),
  ("open_requests", ["open", "unscrew"]),
  ("play_requests", ["play", "tinkle"]),
  ("flush_requests", ["flush"]),
  ("draw_requests", ["draw"]),
  ("move_north", ["north", "n"]),
  ("move_south", ["south", "s"]),
  ("move_east", ["east", "e"]),
  ("move_west", ["west", "w"]),
  ("yes_words", ["yes", "y", "yeah", "yep", "sure", "ok", "okay"]),
  ("fast_words", ["fast", "quick", "speedy"]),
  ("medium_words", ["medium", "normal", "default"]),
  ("slow_words", ["slow", "leisurely"]),
  ("off_words", ["off", "none", "instant"]),
  ("words_to_remove", ["the", "a", "an", "to", "with", "please", "my", "some", "into", "of"])]

def stories : List (String × List String) := [
  ("title", ["FORK OFF: A Tale of Cutlery and Condiments"]),
  ("introduction", [
      "It has been a long day. You trudge through the front door of your cluttered little house " ++
        "with one thought in your head: pickles.",
      "Somewhere in this house there is a jar of dill pickles. You are sure of it. You have " ++
        "never been more sure of anything.",
      "Type help at any time to see what you can do."]),
  ("ending", [
      "The last crunch echoes through the silent house.",
      "You lean back, fork in hand, pickle juice on your chin, and consider the journey that " ++
        "brought you here. The darkness of the pantry. The stubbornness of the lid. The " ++
        "unwavering loyalty of a single crooked fork.",
      "Some heroes slay dragons. You opened a jar.",
      "THE END"])]

def art : List (String × List String) := [
  ("intro_art", [
      " _____ ___  ____  _  __   ___  _____ _____ ",
      "|  ___/ _ \\|  _ \\| |/ /  / _ \\|  ___|  ___|",
      "| |_ | | | | |_) | ' /  | | | | |_  | |_   ",
      "|  _|| |_| |  _ <| . \\  | |_| |  _| |  _|  ",
      "|_|   \\___/|_| \\_\\_|\\_\\  \\___/|_|   |_|    "]),
  ("game_map", [
      "+-----------+-----------+",
      "|  kitchen  =  pantry   |",
      "|           |           |",
      "+----+ +----+-----------+",
      "|    entry  = living    |",
      "|           |   room    |",
      "+-----------+-----------+",
      "",
      "        N",
      "      W + E",
      "        S"])]

end TextAdventure.PickleQuest
