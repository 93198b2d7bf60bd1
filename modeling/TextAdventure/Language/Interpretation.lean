import TextAdventure.Dialogue
import TextAdventure.Language.Intent
import TextAdventure.Language.Target

/-!
# What a line means

A line is split into words in lower case, without the filler words.  Its action is that of the
first two words, or else that of the first word, or else walking; the words after the phrase
that gave the action name the targets.  Loading a game must be confirmed before it counts, and
some actions are closed to the player.
-/

set_option autoImplicit false

namespace TextAdventure

/-- Who reads a line: what its words can refer to, and whether the game is under development. -/
structure Reader where
  scene : Scene
  development : Bool

namespace Reader

def loadQuestion : String := "Are you sure you want to load a saved game?"

/-- The target of the command that shows the map. -/
def mapName : String := "game_map"

def words (r : Reader) (line : String) : List String :=
  ((Text.words line).map Text.lower).filter (!r.scene.vocabulary.isFiller ·)

/-- The action of a phrase.  A load must be confirmed; stories are not for the player to ask for,
and objectives are listed under development only. -/
def action (r : Reader) (phrase : String) (d : Dialogue) : Action × Dialogue :=
  match r.scene.vocabulary.action phrase with
  | .loadGame =>
      let (answer, d) := d.ask loadQuestion
      (if answer.any r.scene.vocabulary.isYes then .loadGame else .declineLoad, d)
  | .tellStory => (if r.scene.fromPlayer then .unknown else .tellStory, d)
  | .objectives => (if r.development then .objectives else .unknown, d)
  | action => (action, d)

/-- A word alone is an action or a place to walk to. -/
def oneWord (r : Reader) (word : String) (d : Dialogue) : Intent × Dialogue :=
  match r.action word d with
  | (.showMap, d) => (.withTarget .showMap mapName, d)
  | (.unknown, d) =>
      match r.scene.target? [word] with
      | some target => (.withTarget .move target, d)
      | none => (.untargeted .unknown, d)
  | (action, d) => (.untargeted action, d)

/-- The target of an action from the one word after it. -/
def wordTarget (r : Reader) (action : Action) (word : String) : List String :=
  match r.scene.target? [word] with
  | some target => [target]
  | none => if action = .aliases then [word] else []

def twoWords (r : Reader) (first second : String) (d : Dialogue) : Intent × Dialogue :=
  match r.action (first ++ " " ++ second) d with
  | (.showMap, d) => (.withTarget .showMap mapName, d)
  | (.unknown, d) =>
      match r.action first d with
      | (.unknown, d) => (.withTargets .move (r.scene.target? [first, second]).toList, d)
      | (action, d) => (.withTargets action (r.wordTarget action second), d)
  | (action, d) => (.withTargets action [], d)

/-- The targets of an action from the words after it. -/
def wordsTargets (r : Reader) (action : Action) (words : List String) : List String :=
  match r.scene.targets words with
  | [] => if action = .aliases then [" ".intercalate words] else []
  | targets => targets

/-- A line of three words or more, of which `rest` come after the first two. -/
def manyWords (r : Reader) (first second : String) (rest : List String) (d : Dialogue) :
    Intent × Dialogue :=
  match r.action (first ++ " " ++ second) d with
  | (.showMap, d) => (.withTarget .showMap mapName, d)
  | (.unknown, d) =>
      match r.action first d with
      | (.unknown, d) => (.withTargets .move (r.scene.targets (first :: second :: rest)), d)
      | (action, d) => (.withTargets action (r.wordsTargets action (second :: rest)), d)
  | (action, d) => (.withTargets action (r.scene.targets rest), d)

def interpret (r : Reader) (line : String) (d : Dialogue) : Intent × Dialogue :=
  match r.words line with
  | [] => (.silent, d)
  | [word] => r.oneWord word d
  | [first, second] => r.twoWords first second d
  | first :: second :: rest => r.manyWords first second rest d

end Reader

end TextAdventure
