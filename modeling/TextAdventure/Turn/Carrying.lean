import TextAdventure.Turn.Movement

/-!
# Taking, dropping and inspecting

An item is taken from the current room and dropped into it, and stands last where it goes.  The
target of each command is looked up among all items by any name it answers to, and then has to
be where the command needs it.
-/

set_option autoImplicit false

namespace TextAdventure

namespace Reply

def emptyInventory : String := "You have no items in your inventory."

def inventory : String := "Inventory Contents:"

def itemAdded : String := "You added an item to your inventory:"

def notInInventory : String := "You don't have that item in your inventory."

def itemNotFound : String := "Hmm, you can't seem to find that."

def cantPickUp : String := "You can't pick that up."

def alreadyCarried : String := "You already have that item in your inventory."

def alreadyInRoom : String := "That item is already in this room."

def dropped (room : String) : String := "You dropped an item in " ++ room ++ ":"

end Reply

namespace World

/-- Move an item from the current room to the player. -/
def carry (w : World) (item : String) : World :=
  (w.updateRoom (·.remove item)).updatePlayer (·.take item)

/-- Move an item from the current room to the player, who gets to know it. -/
def pickUp (w : World) (item : String) : World :=
  ((w.carry item).updateItem item fun found => { found with discovered := true }).touch

/-- Move an item from the player to the current room. -/
def putDown (w : World) (item : String) : World :=
  ((w.updateRoom (·.place item)).updatePlayer (·.remove item)).touch

def take (w : World) (target? : Option String) : Outcome World :=
  match target?.bind w.item? with
  | none => w.refuse Reply.itemNotFound
  | some item =>
      if w.player.holds item.name && !w.inRoom item.name then w.refuse Reply.alreadyCarried
      else if !item.collectible || item.locked then w.refuse Reply.cantPickUp
      else if !w.inRoom item.name then w.refuse Reply.itemNotFound
      else
        let carried := w.carry item.name
        match carried.record? item.name with
        | some found => (w.pickUp item.name).answer (.headed Reply.itemAdded found.summary)
        | none => carried.refuse Reply.itemNotFound

def drop (w : World) (target? : Option String) : Outcome World :=
  match target?.bind w.item? with
  | none => w.refuse Reply.itemNotFound
  | some item =>
      if !w.player.holds item.name then w.refuse Reply.notInInventory
      else if w.inRoom item.name then w.refuse Reply.alreadyInRoom
      else
        match w.currentRoom? with
        | none => w.refuse Reply.itemNotFound
        | some room =>
            (w.putDown item.name).answer (.headed (Reply.dropped room.name) item.summary)

def inventory (w : World) : Response :=
  match w.player.inventory.filterMap w.record? with
  | [] => .success Reply.emptyInventory
  | items => .listing Reply.inventory (items.map Item.summary)

/-! ## Inspecting -/

/-- The mark of a line's key that makes the line an entry of a checklist. -/
def listMark : List Char := ['l', 'i', 's', 't', '_']

/-- The key of a checklist entry without its mark. -/
def listKey? (key : String) : Option String :=
  if listMark.isPrefixOf key.toList then some (String.ofList (key.toList.drop listMark.length))
  else none

/-- A checklist entry that is done. -/
def strike (line : String) : String :=
  String.ofList (line.toList.map fun c => if c = '-' then 'x' else c)

/-- Whether a line about `key` is shown.  A line about another item is shown as long as that one
has not been found and is not hidden. -/
def showsLine (w : World) (inspected : Item) (key : String) : Bool :=
  match w.item? key with
  | some other => other.name == inspected.name || (!other.discovered && !other.hidden)
  | none => true

/-- A line as it is shown: struck if it is about an objective that is complete. -/
def lineText (w : World) (key line : String) : String :=
  match w.objective? ((listKey? key).getD key) with
  | some objective => if w.complete objective then strike line else line
  | none => line

/-- The messages of one line; a checklist entry is not set off from what came before. -/
def lineMessages (w : World) (inspected : Item) (entry : String × String) : List Message :=
  let (key, line) := entry
  if w.showsLine inspected key then
    (if (listKey? key).isNone then [.blank] else []) ++ [.paragraph (w.lineText key line)]
  else []

def inspect (w : World) (target? : Option String) : Response :=
  match target?.bind w.item? with
  | none => .failure Reply.itemNotFound
  | some item =>
      if w.nearby item.name then ⟨.success, item.lookLines.flatMap (w.lineMessages item)⟩
      else .failure Reply.itemNotFound

end World

end TextAdventure
