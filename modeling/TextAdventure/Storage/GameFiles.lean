import TextAdventure.Json.Printer
import TextAdventure.Json.Reader
import TextAdventure.Language.Vocabulary
import TextAdventure.Storage.FileTable
import TextAdventure.World.Format

/-!
# The files of a game

A game lives in two directories.  The data directory holds the fresh world and the vocabulary,
stories and art; nothing is ever written there.  The save directory holds the files of one
saved world, which counts as saved when all of them are there.
-/

set_option autoImplicit false

namespace TextAdventure

/-- What is wrong with the text of a game file. -/
inductive DataFault where
  | malformed
  | mistyped
deriving DecidableEq

namespace DataFault

def message : DataFault → String
  | malformed => "the text is not well formed"
  | mistyped => "a field is missing or holds the wrong kind of value"

end DataFault

/-- Why a game could not be loaded or saved. -/
inductive StoreError where
  | read (path : String) (cause : FileError)
  | write (path : String) (cause : FileError)
  | parse (path : String) (cause : DataFault)
deriving DecidableEq

namespace StoreError

def message : StoreError → String
  | read path cause => "unable to read " ++ path ++ ": " ++ cause.message
  | write path cause => "unable to write " ++ path ++ ": " ++ cause.message
  | parse path cause => path ++ " is not valid game data: " ++ cause.message

/-- What lies behind the error. -/
def cause : StoreError → String
  | read _ cause => cause.message
  | write _ cause => cause.message
  | parse _ cause => cause.message

end StoreError

/-- Texts under names, each a list of lines: stories and art. -/
abbrev NamedTexts := NameMap (List String)

/-- Where the files of a game are. -/
structure Directories where
  data : String
  save : String
deriving DecidableEq

/-- Which world to load. -/
inductive LoadMode where
  | new
  | resume
deriving DecidableEq

namespace Directories

def world (d : Directories) : LoadMode → String
  | .new => d.data
  | .resume => d.save

end Directories

/-! ## Reading -/

/-- The value that a text spells. -/
def decode {α : Type} (ofJson? : Json → Option α) (text : String) : Except DataFault α :=
  match Json.ofText? text with
  | none => .error .malformed
  | some value =>
      match ofJson? value with
      | none => .error .mistyped
      | some a => .ok a

/-- The value that a file spells. -/
def readValue {α : Type} (t : FileTable) (ofJson? : Json → Option α) (path : String) :
    Except StoreError α :=
  match t.read path with
  | .error cause => .error (.read path cause)
  | .ok text =>
      match decode ofJson? text with
      | .error cause => .error (.parse path cause)
      | .ok a => .ok a

def roomsFile : String := "rooms.json"

def itemsFile : String := "items.json"

def playerFile : String := "player.json"

def objectivesFile : String := "objectives.json"

def vocabularyFile : String := "language.json"

def storiesFile : String := "game_stories.json"

def artFile : String := "game_art.json"

def roomsOfJson? : Json → Option (List Room) := Json.listOf? Room.ofJson?

def itemsOfJson? : Json → Option (List Item) := Json.listOf? Item.ofJson?

def objectivesOfJson? : Json → Option (List Objective) := Json.listOf? Objective.ofJson?

def namedTextsOfJson? : Json → Option NamedTexts := Json.mapOf? (Json.listOf? Json.text?)

namespace World

/-- Where a player whose stored location names no room is put. -/
def defaultLocation : String := "entry"

/-- Put the player's location under the proper name of its room. -/
def settlePlayer (w : World) : World :=
  let location :=
    match w.room? w.player.location with
    | some room => room.name
    | none => defaultLocation
  w.updatePlayer fun player => { player with location := location }

/-- The world in the files of a directory. -/
def load (t : FileTable) (directory : String) : Except StoreError World := do
  let items ← readValue t itemsOfJson? (joinPath directory itemsFile)
  let rooms ← readValue t roomsOfJson? (joinPath directory roomsFile)
  let player ← readValue t Player.ofJson? (joinPath directory playerFile)
  let objectives ← readValue t objectivesOfJson? (joinPath directory objectivesFile)
  return settlePlayer { rooms, items, objectives, player }

/-! ## Writing -/

/-- The files of a world and what is written to them, in the order of writing. -/
def files (w : World) : List (String × String) := [
  (playerFile, w.player.toJson.toText),
  (roomsFile, (Json.array (w.rooms.map Room.toJson)).toText),
  (itemsFile, (Json.array (w.items.map Item.toJson)).toText),
  (objectivesFile, (Json.array (w.objectives.map Objective.toJson)).toText)]

end World

/-- Write one file of a saved world.  The table comes back also after a failure. -/
def writeFile (t : FileTable) (path text : String) : FileTable × Option StoreError :=
  match t.write path text with
  | .ok t => (t, none)
  | .error cause => (t, some (.write path cause))

/-- Write files one after another, up to the first that fails. -/
def writeFiles (t : FileTable) (directory : String) :
    List (String × String) → FileTable × Option StoreError
  | [] => (t, none)
  | (file, text) :: rest =>
      match writeFile t (joinPath directory file) text with
      | (t, none) => writeFiles t directory rest
      | (t, some error) => (t, some error)

/-- Save a world to a directory, which is made if it is missing. -/
def saveWorld (t : FileTable) (directory : String) (w : World) : FileTable × Option StoreError :=
  match t.makeDirectories directory with
  | (t, some cause) => (t, some (.write directory cause))
  | (t, none) => writeFiles t directory w.files

/-- Whether a directory holds all files of a saved world. -/
def hasSavedWorld (t : FileTable) (directory : String) : Bool :=
  [playerFile, roomsFile, itemsFile, objectivesFile].all fun file =>
    t.isFile (joinPath directory file)

/-- Where the data directory is looked for, in this order. -/
def dataCandidates : List String := ["forkoff_engine/data", "data"]

end TextAdventure
