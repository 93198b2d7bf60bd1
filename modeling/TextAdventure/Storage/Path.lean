import TextAdventure.Text.Blank

/-!
# Paths

A path is kept as it is written, since messages show it so.  It spells a route: a name goes down
into a directory, two dots go back up and a single dot stays.  Where a route leads depends on what
stands on its way, since each step is taken in a directory.
-/

set_option autoImplicit false

namespace TextAdventure

/-- Why a file or directory could not be read, written or made. -/
inductive FileError where
  | notFound
  | alreadyExists
  | notADirectory
  | isADirectory
  | nameTooLong
  | nulInName
  | notText
deriving DecidableEq

namespace FileError

def message : FileError → String
  | notFound => "No such file or directory (os error 2)"
  | alreadyExists => "File exists (os error 17)"
  | notADirectory => "Not a directory (os error 20)"
  | isADirectory => "Is a directory (os error 21)"
  | nameTooLong => "File name too long (os error 36)"
  | nulInName => "file name contained an unexpected NUL byte"
  | notText => "stream did not contain valid UTF-8"

end FileError

/-! ## Places -/

/-- The names from the working directory down, or from the root of all files if the first is a
slash.  Two dots come only first; they go up from the working directory. -/
abbrev Place := List String

namespace Place

/-- Whether a place is the root of all files, or the working directory or above it, so that it is
always a directory. -/
def isRoot (place : Place) : Bool :=
  place = ["/"] || place.all (· == "..")

/-- The place that one step leads to. -/
def follow (place : Place) (step : String) : Place :=
  if step = "." then place
  else if step = ".." then
    if place = ["/"] then place
    else if place.isRoot then place ++ [step]
    else place.dropLast
  else place ++ [step]

/-- The places that lie strictly above a place, the outermost first. -/
def above (place : Place) : List Place :=
  (List.range place.length).map place.take

end Place

/-! ## Routes -/

/-- What a path spells. -/
structure Route where
  start : Place
  /-- The steps as they are written, single dots included. -/
  steps : List String
  /-- Whether the path ends in a slash, so that it can only lead to a directory. -/
  toDirectory : Bool
deriving DecidableEq

namespace Route

/-- How many bytes a path may have. -/
def pathLimit : Nat := 4095

/-- How many bytes a name in a path may have. -/
def nameLimit : Nat := 255

/-- The route that a path spells.  Doubled slashes count for nothing, and the empty path leads
nowhere. -/
def ofPath (path : String) : Except FileError Route :=
  if path.toList.contains '\x00' then .error .nulInName
  else if path.isEmpty then .error .notFound
  else if pathLimit < path.utf8ByteSize then .error .nameTooLong
  else
    .ok { start := if path.toList.head? = some '/' then ["/"] else []
          steps := Text.runsAfter (· == '/') [] path.toList
          toDirectory := path.toList.getLast? = some '/' }

/-- The steps of the route, and one more that stays if the path must lead to a directory. -/
def fullSteps (r : Route) : List String :=
  if r.toDirectory then r.steps ++ ["."] else r.steps

/-- Where the route leads if nothing is in its way. -/
def place (r : Route) : Place :=
  r.steps.foldl Place.follow r.start

/-- The places that the route passes, where it leads included. -/
def places (r : Route) : List Place :=
  (List.range' 1 r.steps.length).map fun count => (r.steps.take count).foldl Place.follow r.start

/-- The routes to the directories on the way, the nearest first; single dots do not lead to
another one. -/
def above (r : Route) : List Route :=
  let steps := r.steps.filter (· != ".")
  (List.range' 1 (steps.length - 1)).reverse.map fun count =>
    { r with steps := steps.take count, toDirectory := false }

end Route

/-- The path of a file in a directory. -/
def joinPath (directory file : String) : String :=
  if directory.isEmpty || directory.toList.getLast? = some '/' then directory ++ file
  else directory ++ "/" ++ file

end TextAdventure
