import TextAdventure.Turn.Housekeeping
import TextAdventure.Turn.Interacting

/-!
# Carrying out an intent

Each action belongs to one group, and each group carries out its own actions and declines all
others.  After every line that says something, the player wins if all objectives are complete.
-/

set_option autoImplicit false

namespace TextAdventure

namespace World

def carryOutMovement (w : World) (v : Vocabulary) (intent : Intent) : Outcome World :=
  match intent.action with
  | .move => w.walk v intent.primaryTarget?
  | .look => w.answer (w.look v intent.primaryTarget?)
  | _ => w.refuse Reply.unsure

def carryOutCarrying (w : World) (intent : Intent) : Outcome World :=
  match intent.action with
  | .take => w.take intent.primaryTarget?
  | .drop => w.drop intent.primaryTarget?
  | .inventory => w.answer w.inventory
  | .inspect => w.answer (w.inspect intent.primaryTarget?)
  | _ => w.refuse Reply.unsure

def carryOutInteraction (w : World) (intent : Intent) : Outcome World :=
  if intent.action = .use then w.use intent.presentTargets
  else
    match intent.action.key?, intent.primaryTarget? with
    | some key, some target => w.act target key
    | some _, none => w.refuse Reply.itemNotFound
    | none, _ => w.refuse Reply.unsure

end World

namespace Game

def carryOutHousekeeping (g : Game) (intent : Intent) : Outcome Game :=
  let target? := intent.primaryTarget?
  match intent.action with
  | .exit => g.leave
  | .tellStory => g.answer (g.story target?)
  | .saveGame => g.saveCommand
  | .loadGame => g.loadCommand .resume
  | .newGame => g.loadCommand .new
  | .help => g.answer g.help
  | .objectives => g.answer g.listObjectives
  | .aliases => g.answer (g.listAliases target?)
  | .scroll => g.scroll target?
  | .hint => g.hint
  | .showMap => g.answer (g.picture target?)
  | .draw => g.answer (g.picture target?)
  | _ => g.refuse Reply.unsure

/-- The game after something that concerns its world alone. -/
def inWorld (g : Game) (outcome : Outcome World) : Outcome Game :=
  ⟨g.withWorld outcome.state, outcome.response⟩

def carryOut (g : Game) (intent : Intent) : Outcome Game :=
  match intent.action.group? with
  | some .movement => g.inWorld (g.world.carryOutMovement g.vocabulary intent)
  | some .housekeeping => g.carryOutHousekeeping intent
  | some .carrying => g.inWorld (g.world.carryOutCarrying intent)
  | some .interaction => g.inWorld (g.world.carryOutInteraction intent)
  | none => g.refuse Reply.unsure

/-- Let the player win if there is nothing left to do. -/
def checkVictory (g : Game) : Game :=
  g.withWorld g.world.checkVictory

/-- Interpret a line and carry it out.  A line that says nothing does nothing. -/
def respond (g : Game) (line : String) (fromPlayer : Bool) : Outcome Game :=
  let (intent, g) := g.interpret line fromPlayer
  if intent.isSilent then g.answer .empty
  else
    let outcome :=
      if intent.action = .declineLoad then g.refuse Reply.loadDeclined else g.carryOut intent
    ⟨outcome.state.checkVictory, outcome.response⟩

end Game

end TextAdventure
