import TextAdventure.Language.Speed
import TextAdventure.Settings.Configuration
import TextAdventure.Storage.GameFiles

/-!
# Settings

Where the files of the game are, how fast text appears, and whether the game is under
development.  A settings file overrides the defaults; one that cannot be read as a whole is
ignored as a whole, and a speed that has no meaning is ignored alone.
-/

set_option autoImplicit false

namespace TextAdventure

structure Settings where
  directories : Directories
  speed : Speed := .medium
  development : Bool := false
deriving DecidableEq

namespace Settings

def defaultFile : String := "forkoff.toml"

def defaultSaveDirectory : String := "save_data"

/-- The first of the usual data directories that holds a vocabulary. -/
def dataDirectory (t : FileTable) : String :=
  (dataCandidates.find? fun directory => t.isFile (joinPath directory vocabularyFile)).getD "data"

def default (t : FileTable) : Settings where
  directories := ⟨dataDirectory t, defaultSaveDirectory⟩

/-- The settings after one line of a settings file, unless the line makes no sense. -/
def set? (s : Settings) (entry : String × Configuration.Value) : Option Settings :=
  match entry with
  | ("data_dir", .text path) => some { s with directories := { s.directories with data := path } }
  | ("save_dir", .text path) => some { s with directories := { s.directories with save := path } }
  | ("scroll_speed", .text name) => some { s with speed := (Speed.ofName? name).getD s.speed }
  | ("development", .flag b) => some { s with development := b }
  | _ => none

/-- The settings of a settings file's text. -/
def ofText? (defaults : Settings) (text : String) : Option Settings := do
  (← Configuration.ofText? text).foldlM set? defaults

/-- The defaults, overridden by a settings file that can be used. -/
def load (t : FileTable) (path : String) : Settings :=
  match t.read path with
  | .ok text => (ofText? (default t) text).getD (default t)
  | .error _ => default t

end Settings

end TextAdventure
