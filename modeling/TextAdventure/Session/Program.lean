import TextAdventure.Display.Style
import TextAdventure.Session.Input
import TextAdventure.Session.Run
import TextAdventure.Settings.CommandLine

/-!
# The program

From a command line, the files and the input to what is written and to the exit code: 0 for a
session that ends, 1 for a failure, 2 for a command line that makes no sense.
-/

set_option autoImplicit false

namespace TextAdventure

/-- A failure, and what lies behind it, the nearest cause first. -/
structure Failure where
  text : String
  causes : List String := []
deriving DecidableEq

namespace Failure

/-- A cause with what stands before its first line and before each other one. -/
def causeText (first other cause : String) : String :=
  first ++ ("\n" ++ other).intercalate (cause.splitOn "\n")

/-- A number that takes five columns. -/
def columnNumber (n : Nat) : String :=
  let digits := toString n
  String.ofList (List.replicate (5 - digits.length) ' ') ++ digits

/-- The causes, numbered if there are several. -/
def causeTexts : List String → List String
  | [cause] => [causeText "    " "    " cause]
  | causes =>
      causes.zipIdx.map fun (cause, n) => causeText (columnNumber n ++ ": ") "       " cause

/-- What is reported of a failure. -/
def report (f : Failure) : String :=
  let head := "Error: " ++ f.text
  let lines :=
    match f.causes with
    | [] => [head]
    | causes => [head, "", "Caused by:"] ++ causeTexts causes
  "\n".intercalate lines ++ "\n"

/-- The failure to load what a game needs from the start. -/
def ofLoading (directory : String) (error : StoreError) : Failure :=
  ⟨"while loading game data from " ++ directory, [error.message, error.cause]⟩

end Failure

namespace Program

def versionText : String := "forkoff 0.1.0\n"

def helpText : String :=
  "Play the Fork Off text adventure\n\n" ++
  "Usage: forkoff [OPTIONS]\n\n" ++
  "Options:\n" ++
  "  -d, --development          Run the game in development mode\n" ++
  "  -c, --config <CONFIG>      Settings file path [default: forkoff.toml]\n" ++
  "      --data-dir <DATA_DIR>  Directory holding the game data files\n" ++
  "      --save-dir <SAVE_DIR>  Directory for saved games\n" ++
  "  -v, --verbose              Log more\n" ++
  "  -h, --help                 Print help\n" ++
  "  -V, --version              Print version\n"

def misuseText : String :=
  "error: the command line makes no sense\n\n" ++
  "Usage: forkoff [OPTIONS]\n\n" ++
  "For more information, try '--help'.\n"

/-- The control sequences that clear the screen. -/
def clearScreen : Piece := ⟨"\x1b[2J\x1b[H", 0⟩

/-- What a run of the program leaves. -/
structure Result where
  code : Nat
  out : List Piece := []
  err : String := ""
  files : FileTable
  /-- How many lines of input were asked for. -/
  asked : Nat := 0

/-- Play a game with the given settings. -/
def play (t : FileTable) (s : Settings) (input : List InputLine) (colored : Bool) : Result :=
  match Game.new t s.directories { pending := input } s.speed s.development with
  | .error error =>
      { code := 1, err := (Failure.ofLoading s.directories.data error).report, files := t }
  | .ok game =>
      let ended := game.play
      let dialogue := ended.game.dialogue
      let terminal : Terminal := ⟨colored, s.development⟩
      let (code, err) :=
        match ended.error? with
        | none => (0, "")
        | some error => (1, (Failure.mk error.message []).report)
      { code, err
        out := clearScreen :: terminal.transcript dialogue
        files := ended.game.files
        asked := dialogue.transcript.countP Shown.asks }

/-- Run the program. -/
def run (t : FileTable) (arguments : List String) (input : List InputLine) (colored : Bool) :
    Result :=
  match Invocation.ofArguments arguments with
  | .help => { code := 0, out := [⟨helpText, 0⟩], files := t }
  | .version => { code := 0, out := [⟨versionText, 0⟩], files := t }
  | .misuse => { code := 2, err := misuseText, files := t }
  | .play options => play t (options.settings t) input colored

end Program

end TextAdventure
