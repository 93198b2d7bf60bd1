import TextAdventure.Json.Record
import TextAdventure.Language.Action
import TextAdventure.Language.Speed

/-!
# The vocabulary

The words of a game: tables of phrases, each under a name, and the lines of the help text.  A
phrase is looked up trimmed and in lower case and must be in a table as a whole; nothing is
matched in part.  Where several tables list a phrase, a fixed order of the tables decides, and
each kind of question has an order of its own.
-/

set_option autoImplicit false

namespace TextAdventure

inductive Direction where
  | north
  | south
  | east
  | west
deriving DecidableEq

namespace Direction

def name : Direction → String
  | north => "north"
  | south => "south"
  | east => "east"
  | west => "west"

def table : Direction → String
  | north => "move_north"
  | south => "move_south"
  | east => "move_east"
  | west => "move_west"

/-- All directions, in the order in which they are tried. -/
def all : List Direction := [north, south, east, west]

end Direction

structure Vocabulary where
  tables : NameMap (List String) := ∅
  helpLines : List String := []

namespace Vocabulary

/-! ## The order of the tables -/

/-- The action that each table stands for, in the order in which they are tried. -/
def actionTables : List (String × Action) := [
  ("move_requests", .move),
  ("look_requests", .look),
  ("take_requests", .take),
  ("drop_requests", .drop),
  ("exit_requests", .exit),
  ("inspect_requests", .inspect),
  ("save_requests", .saveGame),
  ("load_requests", .loadGame),
  ("new_game_requests", .newGame),
  ("inventory_requests", .inventory),
  ("game_story_requests", .tellStory),
  ("help_requests", .help),
  ("use_requests", .use),
  ("chew_requests", .chew),
  ("pull_requests", .pull),
  ("objective_requests", .objectives),
  ("alias", .aliases),
  ("sit_requests", .sit),
  ("scroll_requests", .scroll),
  ("clean_requests", .clean),
  ("drink_requests", .drink),
  ("hints", .hint),
  ("game_map", .showMap),
  ("climb_requests", .climb),
  ("turn_on_requests", .turnOn),
  ("open_requests", .openUp),
  ("play_requests", .play),
  ("flush_requests", .flush),
  ("draw_requests", .draw)]

/-- The keyword that the phrases of each table stand for, in the order in which they are
tried. -/
def keywordTables : List (String × String) := [
  ("move_requests", "move"),
  ("look_requests", "look"),
  ("take_requests", "take"),
  ("drop_requests", "drop"),
  ("exit_requests", "exit"),
  ("inspect_requests", "inspect"),
  ("save_requests", "save"),
  ("load_requests", "load"),
  ("new_game_requests", "new"),
  ("inventory_requests", "inventory"),
  ("help_requests", "help"),
  ("use_requests", "use"),
  ("chew_requests", "chew"),
  ("pull_requests", "pull"),
  ("alias", "alias"),
  ("sit_requests", "sit"),
  ("move_west", "west"),
  ("move_east", "east"),
  ("move_south", "south"),
  ("move_north", "north"),
  ("yes_words", "yes"),
  ("fast_words", "fast"),
  ("medium_words", "medium"),
  ("slow_words", "slow"),
  ("scroll_requests", "scroll"),
  ("off_words", "off"),
  ("clean_requests", "clean"),
  ("drink_requests", "drink"),
  ("hints", "hint"),
  ("game_map", "game_map"),
  ("climb_requests", "climb"),
  ("turn_on_requests", "turn on"),
  ("open_requests", "open"),
  ("play_requests", "play"),
  ("flush_requests", "flush")]

/-- The tables whose phrases count as synonyms, in the order in which they are tried. -/
def synonymTables : List String := [
  "help_requests", "move_requests", "inspect_requests", "look_requests", "take_requests",
  "drop_requests", "exit_requests", "save_requests", "load_requests", "new_game_requests",
  "chew_requests", "pull_requests", "yes_words", "move_west", "move_east", "move_north",
  "move_south", "sit_requests", "use_requests", "alias", "inventory_requests", "fast_words",
  "slow_words", "medium_words", "scroll_requests", "off_words", "clean_requests",
  "drink_requests", "hints", "game_map", "climb_requests", "turn_on_requests",
  "open_requests", "play_requests", "flush_requests"]

/-- The speed that each table stands for, in the order in which they are tried. -/
def speedTables : List (String × Speed) := [
  ("fast_words", .fast),
  ("medium_words", .medium),
  ("slow_words", .slow),
  ("off_words", .off)]

/-- The table of words that are left out of what the player types. -/
def fillerTable : String := "words_to_remove"

def yesTable : String := "yes_words"

/-! ## Looking phrases up -/

/-- The form in which phrases are compared. -/
def normalize (phrase : String) : String :=
  Text.lower (Text.trim phrase)

/-- The phrases of a table; a table that is missing has none. -/
def phrases (v : Vocabulary) (table : String) : List String :=
  (v.tables.find? table).getD []

/-- Whether a table lists a phrase that is in its normal form. -/
def lists (v : Vocabulary) (table normal : String) : Bool :=
  (v.phrases table).contains normal

/-- The value of the first table that lists a phrase. -/
def firstListing? {α : Type} (v : Vocabulary) (tables : List (String × α)) (phrase : String) :
    Option α :=
  let normal := normalize phrase
  (tables.find? fun entry => v.lists entry.1 normal).map (·.2)

def action (v : Vocabulary) (phrase : String) : Action :=
  (v.firstListing? actionTables phrase).getD .unknown

def direction? (v : Vocabulary) (phrase : String) : Option Direction :=
  v.firstListing? (Direction.all.map fun d => (d.table, d)) phrase

/-- The keyword that a phrase stands for. -/
def keyword? (v : Vocabulary) (phrase : String) : Option String :=
  v.firstListing? keywordTables phrase

def speed? (v : Vocabulary) (phrase : String) : Option Speed :=
  v.firstListing? speedTables phrase

/-- All phrases of the first table that lists a phrase as a synonym. -/
def synonyms (v : Vocabulary) (phrase : String) : List String :=
  match v.firstListing? (synonymTables.map fun table => (table, table)) phrase with
  | some table => v.phrases table
  | none => []

def isYes (v : Vocabulary) (answer : String) : Bool :=
  v.lists yesTable (normalize answer)

def isFiller (v : Vocabulary) (word : String) : Bool :=
  v.lists fillerTable (normalize word)

/-- A sorted list without its repetitions. -/
def dropRepeats : List String → List String
  | [] => []
  | [phrase] => [phrase]
  | a :: b :: rest => if a = b then dropRepeats (b :: rest) else a :: dropRepeats (b :: rest)

/-- All phrases for actions and directions, in order. -/
def commandPhrases (v : Vocabulary) : List String :=
  let tables := actionTables.map (·.1) ++ Direction.all.map Direction.table
  dropRepeats ((tables.flatMap v.phrases).mergeSort fun a b => decide (a ≤ b))

/-! ## The file format -/

/-- The member of a vocabulary file that holds the help text. -/
def helpMember : String := "help_contents"

/-- The phrases of a table as they are kept: in normal form, and none of them empty. -/
def normalizeTable (phrases : List String) : List String :=
  (phrases.map normalize).filter (!·.isEmpty)

/-- A vocabulary of tables as they are written. -/
def ofTables (tables : List (String × List String)) (helpLines : List String) : Vocabulary where
  tables := NameMap.ofList (tables.map fun (name, phrases) => (name, normalizeTable phrases))
  helpLines := helpLines

/-- A vocabulary file is an object of lists of strings.  The help text may come once; of a table
that is repeated the last list counts. -/
def ofJson? (value : Json) : Option Vocabulary := do
  let lists ← Json.pairsOf? (Json.listOf? Json.text?) value
  let (help, tables) := lists.partition fun entry => entry.1 == helpMember
  match help with
  | [] => return ofTables tables []
  | [(_, helpLines)] => return ofTables tables helpLines
  | _ => none

end Vocabulary

end TextAdventure
