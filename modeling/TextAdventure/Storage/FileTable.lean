import TextAdventure.Storage.Path

/-!
# Files

The files and directories that a game can reach, as a table.  A file holds text, or bytes that
are no text.  A path is followed step by step, and every step but the last must lead to a
directory that is there.
-/

set_option autoImplicit false

namespace TextAdventure

inductive Node where
  | file (text : String)
  | garbledFile
  | directory
deriving DecidableEq

structure FileTable where
  entries : List (Place × Node) := []
deriving DecidableEq

namespace FileTable

/-! ## Places -/

/-- What stands at a place. -/
def node? (t : FileTable) (place : Place) : Option Node :=
  if place.isRoot then some .directory else t.entries.lookup place

/-- Let something stand at a place, instead of what stood there. -/
def set (t : FileTable) (place : Place) (node : Node) : FileTable :=
  ⟨(place, node) :: t.entries.filter (·.1 != place)⟩

/-- Remove what stands at a place, with all that stands below it. -/
def remove (t : FileTable) (place : Place) : FileTable :=
  ⟨t.entries.filter (!place.isPrefixOf ·.1)⟩

/-- Let something stand at a place, below directories. -/
def install (t : FileTable) (place : Place) (node : Node) : FileTable :=
  let missing := place.above.filter fun upper => (t.node? upper).isNone
  (missing.foldl (fun t upper => t.set upper .directory) t).set place node

/-! ## Paths -/

/-- The place that steps lead to from a place; it may hold nothing, but all that come before it
must hold directories. -/
def walk (t : FileTable) (place : Place) : List String → Except FileError Place
  | [] => .ok place
  | step :: rest =>
      match t.node? place with
      | none => .error .notFound
      | some .directory =>
          if Route.nameLimit < step.utf8ByteSize then .error .nameTooLong
          else t.walk (place.follow step) rest
      | some _ => .error .notADirectory

/-- The place that a path leads to. -/
def locate (t : FileTable) (path : String) : Except FileError Place := do
  let route ← Route.ofPath path
  t.walk route.start route.fullSteps

/-- The text of a file. -/
def read (t : FileTable) (path : String) : Except FileError String :=
  match t.locate path with
  | .error cause => .error cause
  | .ok place =>
      match t.node? place with
      | some (.file text) => .ok text
      | some .garbledFile => .error .notText
      | some .directory => .error .isADirectory
      | none => .error .notFound

def isFile (t : FileTable) (path : String) : Bool :=
  match t.locate path with
  | .error _ => false
  | .ok place =>
      match t.node? place with
      | some (.file _) | some .garbledFile => true
      | _ => false

/-- The table with a text written to a file, whose directory must exist.  A path that ends in a
slash names no file. -/
def write (t : FileTable) (path text : String) : Except FileError FileTable := do
  let route ← Route.ofPath path
  let place ← t.walk route.start route.steps
  if route.toDirectory || t.node? place = some .directory then throw .isADirectory
  return t.set place (.file text)

/-! ## Directories -/

/-- Whether a route leads to a directory. -/
def leadsToDirectory (t : FileTable) (r : Route) : Bool :=
  match t.walk r.start r.fullSteps with
  | .error _ => false
  | .ok place => t.node? place = some .directory

/-- Make one directory where nothing stands yet. -/
def makeDirectory (t : FileTable) (r : Route) : Except FileError FileTable :=
  match t.walk r.start r.steps with
  | .error cause => .error cause
  | .ok place =>
      match t.node? place with
      | some _ => .error .alreadyExists
      | none => .ok (t.set place .directory)

/-- Make one directory, unless it is there.  The table comes back also after a failure. -/
def ensureDirectory (t : FileTable) (r : Route) : FileTable × Option FileError :=
  match t.makeDirectory r with
  | .ok t => (t, none)
  | .error cause => (t, if t.leadsToDirectory r then none else some cause)

/-- Make the directory that the first route leads to; the other routes lead to those above it, the
nearest first, which are made before if they are missing. -/
def makeChain (t : FileTable) : List Route → FileTable × Option FileError
  | [] => (t, none)
  | r :: above =>
      match t.ensureDirectory r with
      | (t, some .notFound) =>
          match t.makeChain above with
          | (t, none) => t.ensureDirectory r
          | failed => failed
      | done => done

/-- Make a directory and all on the way to it that are missing.  The table comes back also after a
failure, with those that were made. -/
def makeDirectories (t : FileTable) (path : String) : FileTable × Option FileError :=
  if path.isEmpty then (t, none)
  else
    match Route.ofPath path with
    | .error cause => (t, some cause)
    | .ok r => t.makeChain (r :: r.above)

end FileTable

end TextAdventure
