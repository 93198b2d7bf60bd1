import TextAdventure.Game
import TextAdventure.Turn.Movement

/-!
# Commands about the game itself

Leaving, saving and loading, stories and art, help, hints, other words for things, and the speed
of the text.  Only a new game that cannot be loaded leaves nothing to play.
-/

set_option autoImplicit false

namespace TextAdventure

namespace Reply

def noStory : String := "No story found."

def saved : String := "Your game was saved successfully."

def newGameStarted : String := "New game started."

def gameLoaded : String := "Game loaded successfully."

def loadDeclined : String := "You've chosen not to load a game."

def help : String := "Available Commands:"

def objectives : String := "Current Objectives:"

def aliasMissing : String := "Please provide an alias to get help for."

def scrollMissing : String := "Please provide a valid scroll speed to change to."

def scrollUnchanged : String := "Text printing speed not changed."

def scrollOff : String := "Text printing effects turned off."

def scrollChanged (word : String) : String := "Text printing speed changed to " ++ word ++ "."

def hints : String := "You begin to ponder deeply:"

def nothingToPonder : String :=
  "You have done everything there is to do. There is nothing left to ponder."

def noArt : String := "You can't quite picture that."

def saveFailed (error : StoreError) : String :=
  "An error occurred while saving your game: " ++ error.message

def newGameFailed (error : StoreError) : String :=
  "An error occurred while starting a new game: " ++ error.message

def resumeFailed (error : StoreError) : String :=
  "An error occurred while loading your game: " ++ error.message

def aliasUnknown (name : String) : String := "Unable to find an alias for '" ++ name ++ "'."

def noAliases (name : String) : String := "No aliases found for '" ++ name ++ "'."

def aliasesOf (name : String) : String := "Aliases for '" ++ name ++ "':"

end Reply

namespace Game

def answer (g : Game) (response : Response) : Outcome Game := ⟨g, response⟩

def refuse (g : Game) (text : String) : Outcome Game := g.answer (.failure text)

/-- Stop the game; there is nothing to show. -/
def leave (g : Game) : Outcome Game :=
  { g with active := false }.answer .empty

def story (g : Game) (name? : Option String) : Response :=
  match name?.bind g.stories.find? with
  | some lines => ⟨.success, lines.flatMap fun line => [.blank, .paragraph line]⟩
  | none => .failure Reply.noStory

def picture (g : Game) (name? : Option String) : Response :=
  match name?.bind g.art.find? with
  | some lines => .art lines
  | none => .failure Reply.noArt

def saveCommand (g : Game) : Outcome Game :=
  match g.save with
  | (saved, none) => saved.answer (.success Reply.saved)
  | (partly, some error) => partly.refuse (Reply.saveFailed error)

/-- Load a game; failing to load a new one is an error. -/
def loadCommand (g : Game) (mode : LoadMode) : Outcome Game :=
  match mode, g.load mode with
  | .new, .ok loaded => loaded.answer (.success Reply.newGameStarted)
  | .resume, .ok loaded => loaded.answer (.success Reply.gameLoaded)
  | .new, .error error => g.answer (.error (Reply.newGameFailed error))
  | .resume, .error error => g.refuse (Reply.resumeFailed error)

def help (g : Game) : Response :=
  .listing Reply.help g.vocabulary.helpLines

def objectiveLine (w : World) (objective : Objective) : String :=
  objective.name ++ " - complete: " ++ (if w.complete objective then "true" else "false")

def listObjectives (g : Game) : Response :=
  .listing Reply.objectives (g.world.objectives.map (objectiveLine g.world))

/-- Other words for a name: those of a room, of an item at hand, or of a command.  There are none
if no room or item has the name and no command either. -/
def otherNames? (g : Game) (name : String) : Option (List String) :=
  match g.world.room? name, g.world.nearbyItem? name with
  | some room, _ => some room.aliases
  | none, some item => some item.aliases
  | none, none =>
      match g.vocabulary.synonyms name with
      | [] => none
      | synonyms => some synonyms

def listAliases (g : Game) (target? : Option String) : Response :=
  match target? with
  | none => .failure Reply.aliasMissing
  | some target =>
      match (Scene.mk g.world g.vocabulary true).find? target with
      | none => .failure (Reply.aliasUnknown target)
      | some name =>
          match g.otherNames? name with
          | none => .failure (Reply.aliasUnknown name)
          | some [] => .failure (Reply.noAliases name)
          | some names => .listing (Reply.aliasesOf name) names

def scroll (g : Game) (target? : Option String) : Outcome Game :=
  match target? with
  | none => g.refuse Reply.scrollMissing
  | some word =>
      match g.vocabulary.speed? word with
      | none => g.refuse Reply.scrollUnchanged
      | some speed =>
          if speed = g.speed then g.refuse Reply.scrollUnchanged
          else
            (g.setSpeed speed).answer
              (.success (if speed = .off then Reply.scrollOff else Reply.scrollChanged word))

/-- Reveal one more hint for the first objective that is not complete. -/
def hint (g : Game) : Outcome Game :=
  let isOpen := fun objective => !g.world.complete objective
  match g.world.objectives.find? isOpen with
  | none => g.answer (.success Reply.nothingToPonder)
  | some objective =>
      let objectives := updateFirst isOpen Objective.revealHint g.world.objectives
      (g.withWorld { g.world with objectives := objectives }).answer
        (.listing Reply.hints objective.revealHint.revealedHints)

end Game

end TextAdventure
