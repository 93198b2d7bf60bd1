import TextAdventure.Language.Intent
import TextAdventure.Turn.Carrying

/-!
# Doing things with items

An item to act on must be at hand and known; it must list the action, and have what the action
requires at hand and known; if it is collectible it must be carried.  Then the action replaces
the item's description, sets the markers of objectives, unhides, unlocks and discovers items,
and makes items into others, in this order.

One item can be used with another if both list the paired action.  Both take effect; the
message and the items made are those of the first.
-/

set_option autoImplicit false

namespace TextAdventure

namespace Reply

def tryNaming : String := "You aren't sure what to do, try naming the item."

/-- How an action on an item is told. -/
def verb (action : String) : String :=
  match action with
  | "sit" => "sit on"
  | "use_with" => "use"
  | _ => action

def nothingHappens (action item : String) : String :=
  "You try to " ++ verb action ++ " the " ++ item ++ " but nothing interesting happens."

def tooFarAway (action item : String) : String :=
  "You try to " ++ verb action ++ " the " ++ item ++
    " but it's too far away. Try picking it up first."

def nothingHappensBetween (first second : String) : String :=
  "You try to use the " ++ first ++ " with the " ++ second ++ " but nothing interesting happens."

end Reply

namespace World

def pairedUse : String := "use_with"

/-- Whether all that an interaction requires is at hand and known. -/
def meets (w : World) (i : Interaction) : Bool :=
  i.requires.all fun name =>
    match w.item? name with
    | some item => w.nearby item.name && item.known
    | none => false

/-- The interaction that acting on an item would perform, if nothing stands in its way. -/
def usable? (w : World) (item : Item) (action : String) : Option Interaction :=
  (item.interaction? action).filter fun i =>
    w.meets i && !(item.collectible && !w.player.holds item.name)

/-! ## Effects -/

/-- Give an item its new description, and set the markers for acting on it. -/
def applyEffects (w : World) (name action : String) (i : Interaction) : World :=
  let described :=
    match i.newDescription with
    | some fragments => w.updateItem name fun item => { item with description := fragments }
    | none => w
  { described with objectives := described.objectives.map (Objective.record name action) }

def updateItems (w : World) (names : List String) (change : Item → Item) : World :=
  names.foldl (fun w name => w.updateItem name change) w

/-- Unhide, unlock and discover the items that an interaction lists. -/
def reveal (w : World) (i : Interaction) : World :=
  ((w.updateItems i.unhides fun item => { item with hidden := false }).updateItems
    i.unlocks fun item => { item with locked := false }).updateItems
    i.discovers fun item => { item with discovered := true }

def consume (w : World) (name : String) : World :=
  w.removeNearby name

def produce (w : World) (name : String) : World :=
  ((w.removeNearby name).updatePlayer (·.take name)).updateItem name
    fun item => { item with discovered := true }

def applyTransform (w : World) (t : Transform) : World :=
  let used :=
    match t.source with
    | some name => w.consume name
    | none => w
  match t.result with
  | some name => used.produce name
  | none => used

def applyTransforms (w : World) (ts : List Transform) : World :=
  ts.foldl applyTransform w

/-! ## Acting -/

def perform (w : World) (name action : String) (i : Interaction) : Outcome World :=
  ((((w.applyEffects name action i).reveal i).applyTransforms i.transforms).touch).answer
    (.prose .success i.message)

def act (w : World) (target action : String) : Outcome World :=
  match w.item? target with
  | none => w.refuse Reply.itemNotFound
  | some item =>
      if !w.nearby item.name then w.refuse Reply.itemNotFound
      else if !item.known then w.refuse (Reply.tooFarAway action item.name)
      else
        match w.usable? item action with
        | none => w.refuse (Reply.nothingHappens action item.name)
        | some i => w.perform item.name action i

/-- The item that one half of a pair names, or the reason why there is none. -/
def pairHalf (w : World) (target : String) : Except String Item :=
  match w.item? target with
  | none => .error Reply.tryNaming
  | some item =>
      if !w.nearby item.name then .error Reply.itemNotFound
      else if !item.known then .error (Reply.tooFarAway pairedUse item.name)
      else .ok item

/-- The paired interaction of an item, which is looked up once more by its name, or the reason why
there is none. -/
def pairInteraction (w : World) (name first second : String) : Except String Interaction :=
  match w.item? name with
  | none => .error Reply.itemNotFound
  | some item =>
      match (item.interaction? pairedUse).filter fun i =>
          w.meets i && !(item.collectible && !w.player.holds name) with
      | none => .error (Reply.nothingHappensBetween first second)
      | some i => .ok i

def performPair (w : World) (first second : String) (i j : Interaction) : Outcome World :=
  ((((((w.applyEffects first pairedUse i).applyEffects second pairedUse j).reveal i).reveal
    j).applyTransforms i.transforms).touch).answer (.prose .success i.message)

/-- What a pair of targets performs: the two items' names and interactions, or the reason why
nothing happens. -/
def pairing (w : World) (target other : String) :
    Except String (String × String × Interaction × Interaction) := do
  let first ← w.pairHalf target
  let second ← w.pairHalf other
  let i ← w.pairInteraction first.name first.name second.name
  let j ← w.pairInteraction second.name first.name second.name
  return (first.name, second.name, i, j)

def actPair (w : World) (target other : String) : Outcome World :=
  match w.pairing target other with
  | .error reason => w.refuse reason
  | .ok (first, second, i, j) => w.performPair first second i j

/-- Use an item, or two of them together; further targets do not count. -/
def use (w : World) (targets : List String) : Outcome World :=
  match targets with
  | [] => w.refuse Reply.tryNaming
  | [target] => w.act target "use"
  | target :: other :: _ => w.actPair target other

end World

end TextAdventure
