import TextAdventure.Language.Interpretation
import TextAdventure.Storage.GameFiles

/-!
# The game

A game is a world together with its words and texts, the files it came from, and the dialogue
with the player.
-/

set_option autoImplicit false

namespace TextAdventure

structure Game where
  world : World := {}
  vocabulary : Vocabulary := {}
  stories : NamedTexts := ∅
  art : NamedTexts := ∅
  speed : Speed := .medium
  development : Bool := false
  /-- Cleared when the player asks to leave. -/
  active : Bool := true
  files : FileTable := {}
  directories : Directories
  dialogue : Dialogue := {}

namespace Game

/-- A game with an empty world and the words, stories and art of the data directory. -/
def new (files : FileTable) (directories : Directories) (dialogue : Dialogue) (speed : Speed)
    (development : Bool) : Except StoreError Game := do
  let vocabulary ← readValue files Vocabulary.ofJson? (joinPath directories.data vocabularyFile)
  let stories ← readValue files namedTextsOfJson? (joinPath directories.data storiesFile)
  let art ← readValue files namedTextsOfJson? (joinPath directories.data artFile)
  return {
    vocabulary, stories, art, speed, development, files, directories
    dialogue := { dialogue with speed := speed } }

/-- A game with the world and the words of the data directory, but no stories and no art. -/
def bare (files : FileTable) (directories : Directories) (dialogue : Dialogue) :
    Except StoreError Game := do
  let world ← World.load files directories.data
  let vocabulary ← readValue files Vocabulary.ofJson? (joinPath directories.data vocabularyFile)
  return { world, vocabulary, files, directories, dialogue }

def withWorld (g : Game) (world : World) : Game :=
  { g with world := world }

/-- Change the speed of responses and questions alike. -/
def setSpeed (g : Game) (speed : Speed) : Game :=
  { g with speed := speed, dialogue := { g.dialogue with speed := speed } }

/-- Ask a yes-or-no question; no answer is no. -/
def confirm (g : Game) (question : String) : Bool × Game :=
  let (answer, dialogue) := g.dialogue.ask question
  (answer.any g.vocabulary.isYes, { g with dialogue := dialogue })

def hasSavedGame (g : Game) : Bool :=
  hasSavedWorld g.files g.directories.save

/-- Put a loaded world in place of the current one, which stays if there is none to load. -/
def load (g : Game) (mode : LoadMode) : Except StoreError Game := do
  let world ← World.load g.files (g.directories.world mode)
  return g.withWorld { world with dirty := false }

/-- Save the world.  A save that fails may have written some of the files. -/
def save (g : Game) : Game × Option StoreError :=
  match saveWorld g.files g.directories.save g.world with
  | (files, none) => ({ g with files := files, world := { g.world with dirty := false } }, none)
  | (files, some error) => ({ g with files := files }, some error)

/-- Who reads lines from the player or from elsewhere. -/
def reader (g : Game) (fromPlayer : Bool) : Reader :=
  ⟨⟨g.world, g.vocabulary, fromPlayer⟩, g.development⟩

/-- What a line asks for, after the questions that this takes. -/
def interpret (g : Game) (line : String) (fromPlayer : Bool) : Intent × Game :=
  let (intent, dialogue) := (g.reader fromPlayer).interpret line g.dialogue
  (intent, { g with dialogue := dialogue })

end Game

end TextAdventure
