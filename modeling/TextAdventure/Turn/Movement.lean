import TextAdventure.Display.Response
import TextAdventure.Language.Target

/-!
# Walking and looking

A walk succeeds if the target leads to a room that is not blocked, is not the current one and
is one of its exits; the first of these that fails decides the answer.  A room is described in
full on the first visit and in brief on later ones.
-/

set_option autoImplicit false

namespace TextAdventure

namespace Reply

def cantDoThat : String := "Hmm, it seems like you can't do that."

def noSuchRoom : String := "Hmm, it seems like that room doesn't exist."

def alreadyHere : String := "Hmm, it seems like you're already there."

def cantGoThatWay : String := "Hmm, it seems like you can't go that way."

def tooFarToSee : String :=
  "Hmm, it seems like you can't quite see that room from here. Try moving closer."

def useInspect : String :=
  "You can only use the look command to look at rooms, try the inspect command instead."

/-- For a room that is barred though no blocker of it is unmet. -/
def brokenBlockers : String :=
  "Tell the developer that they messed up the blockers for this room."

def droppedItems : String := "You previously dropped some items on the floor:"

def unsure : String := "You are unsure how to do that."

end Reply

namespace World

/-- A room's description and what the player left in it. -/
def roomView (w : World) (room : Room) (brief : Bool) : Response :=
  let view := Response.prose .success (if brief then room.shortDescription else w.describe room)
  match w.droppedItems room with
  | [] => view
  | dropped => view.extend (.listing Reply.droppedItems (dropped.map Item.summary))

def answer (w : World) (response : Response) : Outcome World := ⟨w, response⟩

def refuse (w : World) (text : String) : Outcome World := w.answer (.failure text)

/-- Walk into a room known by its exact name. -/
def enter (w : World) (room : String) : Outcome World :=
  let moved := w.movePlayer room
  match moved.currentRoom? with
  | some current => moved.answer (moved.roomView current (w.player.hasVisited room))
  | none => moved.refuse Reply.cantDoThat

/-- Whether a room is the one the player stands in, or goes by the name of an alias of it. -/
def isHere (current destination : Room) : Bool :=
  current.name == destination.name || current.aliases.contains destination.name

/-- Whether a room has blockers and not every objective that they name is complete. -/
def isBarred (w : World) (room : Room) : Bool :=
  !room.blockers.isEmpty &&
    !(room.blockers.filterMap fun blocker => w.objective? blocker.objective).all w.complete

/-- What is told to a player who may not enter a room: the message of its first unmet blocker. -/
def barredReply (message? : Option String) : Response :=
  .prose .failure (message?.getD Reply.brokenBlockers)

def walk (w : World) (v : Vocabulary) (target? : Option String) : Outcome World :=
  match target?.bind (w.destination? v) with
  | none => w.refuse Reply.cantDoThat
  | some destination =>
      if w.isBarred destination then
        w.answer (barredReply (w.unmetBlocker? destination))
      else
        match w.currentRoom? with
        | none => w.refuse Reply.cantDoThat
        | some current =>
            if isHere current destination then w.refuse Reply.alreadyHere
            else if !current.leadsTo destination.name then w.refuse Reply.cantGoThatWay
            else w.enter destination.name

/-- All objectives that are found by the names of some blockers are complete exactly if none of the
blockers is unmet. -/
theorem all_complete_eq (w : World) (blockers : List Blocker) :
    (blockers.filterMap fun blocker => w.objective? blocker.objective).all w.complete =
      !blockers.any w.blocks := by
  induction blockers with
  | nil => rfl
  | cons blocker rest ih =>
      rw [List.filterMap_cons, List.any_cons, blocks]
      cases w.objective? blocker.objective with
      | none => simpa using ih
      | some objective => simp [ih]

/-- A room is barred exactly if it has an unmet blocker. -/
theorem isBarred_eq (w : World) (room : Room) :
    w.isBarred room = (w.unmetBlocker? room).isSome := by
  have unmet : (w.unmetBlocker? room).isSome = room.blockers.any w.blocks := by
    rw [unmetBlocker?, Option.isSome_map, List.isSome_find?]
  rw [unmet, isBarred, all_complete_eq, Bool.not_not]
  cases room.blockers with
  | nil => rfl
  | cons blocker rest => rfl

/-- With one test for the blockers. -/
theorem walk_eq (w : World) (v : Vocabulary) (target? : Option String) :
    w.walk v target? =
      match target?.bind (w.destination? v) with
      | none => w.refuse Reply.cantDoThat
      | some destination =>
          match w.unmetBlocker? destination, w.currentRoom? with
          | some message, _ => w.answer (.prose .failure message)
          | none, none => w.refuse Reply.cantDoThat
          | none, some current =>
              if isHere current destination then w.refuse Reply.alreadyHere
              else if !current.leadsTo destination.name then w.refuse Reply.cantGoThatWay
              else w.enter destination.name := by
  unfold walk
  cases target?.bind (w.destination? v) with
  | none => rfl
  | some destination =>
      dsimp only
      rw [isBarred_eq]
      cases w.unmetBlocker? destination with
      | none => cases w.currentRoom? <;> rfl
      | some message => rfl

/-- Look at the current room; another target is answered with the reason why it cannot be
seen. -/
def look (w : World) (v : Vocabulary) (target? : Option String) : Response :=
  match w.currentRoom?, target? with
  | none, _ => .failure Reply.noSuchRoom
  | some current, none => w.roomView current false
  | some current, some target =>
      match (Scene.mk w v true).find? target with
      | none => .failure Reply.noSuchRoom
      | some name =>
          match w.destination? v name with
          | some room =>
              if room.name = current.name then w.roomView current false
              else .failure Reply.tooFarToSee
          | none => .failure Reply.useInspect

end World

end TextAdventure
