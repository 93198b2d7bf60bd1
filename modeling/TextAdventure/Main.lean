import TextAdventure.Session.Program

/-!
# The console

The files that a run may read are laid into a table, the program runs on it, and what it writes
goes to the screen and, for a saved game, to disk.  Input that is not typed is read as a whole.
Typed input is read line by line: the program runs on the lines so far, up to where it asks for
one more.
-/

set_option autoImplicit false

namespace TextAdventure.Console

/-! ## Files -/

/-- What stands at a path on disk. -/
def probe (path : String) : IO (Option Node) := do
  try
    match String.fromUTF8? (← IO.FS.readBinFile path) with
    | some text => return some (.file text)
    | none => return some .garbledFile
  catch error =>
    match error with
    | .inappropriateType _ 21 _ => return some .directory
    | _ => return none

/-- The path that a place is spelled as. -/
def pathTo (place : Place) : String :=
  match place with
  | "/" :: steps => "/" ++ "/".intercalate steps
  | steps => "/".intercalate steps

/-- The table with what stands on disk along a path. -/
def lookUp (t : FileTable) (path : String) : IO FileTable := do
  match Route.ofPath path with
  | .error _ => return t
  | .ok route =>
      let mut found := t
      for place in route.places do
        unless place.isRoot do
          if let some node ← probe (pathTo place) then found := found.set place node
      return found

def savedFiles : List String := [playerFile, roomsFile, itemsFile, objectivesFile]

/-- The files that a game with the given directories may read. -/
def gameFiles (d : Directories) : List String :=
  (savedFiles ++ [vocabularyFile, storiesFile, artFile]).map (joinPath d.data) ++
    d.save :: savedFiles.map (joinPath d.save)

/-- What a command line lets the program see of the disk. -/
def survey (arguments : List String) : IO FileTable := do
  match Invocation.ofArguments arguments with
  | .play options =>
      let settingsFile := options.config?.getD Settings.defaultFile
      let vocabularies := dataCandidates.map (joinPath · vocabularyFile)
      let table ← (settingsFile :: vocabularies).foldlM lookUp {}
      (gameFiles (options.settings table).directories).foldlM lookUp table
  | _ => return {}

/-- Bring to disk what differs from what is there, in the order in which it was changed. -/
def commit (old new : FileTable) : IO Unit := do
  for (place, node) in new.entries.reverse do
    unless old.node? place = some node do
      match node with
      | .directory => IO.FS.createDirAll (pathTo place)
      | .file text => IO.FS.writeFile (pathTo place) text
      | .garbledFile => pure ()

/-! ## The screen -/

/-- Write a piece of text, with a pause after each character. -/
def emit (output : IO.FS.Stream) (piece : Piece) : IO Unit := do
  if piece.pause = 0 then
    output.putStr piece.text
  else
    for c in piece.text.toList do
      output.putStr c.toString
      output.flush
      IO.sleep piece.pause.toUInt32
  output.flush

/-- Whether text is colored: forced, forbidden or left to whether anyone is watching. -/
def wantsColor (output : IO.FS.Stream) : IO Bool := do
  let isOn := fun value => value != some "0"
  let force ← IO.getEnv "CLICOLOR_FORCE"
  if force.isSome && isOn force then return true
  if (← IO.getEnv "NO_COLOR").isSome then return false
  return isOn (← IO.getEnv "CLICOLOR") && (← output.isTty)

/-! ## Runs -/

/-- The pieces up to the place where the line after `count` lines is typed. -/
def upToPrompt : Nat → List Piece → List Piece
  | _, [] => []
  | count, piece :: rest =>
      if piece = Piece.inputPrompt then
        match count with
        | 0 => [piece]
        | count + 1 => piece :: upToPrompt count rest
      else piece :: upToPrompt count rest

/-- Go on with a conversation in which the lines `typed` have been read and `written` pieces of
text shown; `table` is what is on disk. -/
partial def converse (run : List InputLine → Program.Result) (input output : IO.FS.Stream)
    (typed : List InputLine) (written : Nat) (table : FileTable) : IO Program.Result := do
  let result := run typed
  let finished := result.asked ≤ typed.length
  let pieces := if finished then result.out else upToPrompt typed.length result.out
  for piece in pieces.drop written do emit output piece
  if finished then
    commit table result.files
    return result
  let line ← input.getLine
  if line.isEmpty then
    for piece in result.out.drop pieces.length do emit output piece
    commit table result.files
    return result
  let typed := typed ++ InputLine.allOfBytes line.toUTF8.toList
  commit table result.files
  converse run input output typed pieces.length result.files

/-- Run the program with the given words of the command line. -/
def run (arguments : List String) : IO UInt32 := do
  let input ← IO.getStdin
  let output ← IO.getStdout
  let table ← survey arguments
  let colored ← wantsColor output
  let play := fun lines => Program.run table arguments lines colored
  let result ←
    if ← input.isTty then converse play input output [] 0 table
    else
      let bytes ← IO.FS.Stream.readBinToEnd input
      let result := play (InputLine.allOfBytes bytes.toList)
      for piece in result.out do emit output piece
      commit table result.files
      pure result
  IO.eprint result.err
  return result.code.toUInt32

end TextAdventure.Console

def main (arguments : List String) : IO UInt32 :=
  TextAdventure.Console.run arguments
