import TextAdventure.Json.Record
import TextAdventure.World.Basic

/-!
# The file format of a world

Each record has the members named here, in this order.  All but the names of things, the two
members of a blocker and the item and action of a marker have defaults.  The count of revealed
hints is not written.
-/

set_option autoImplicit false

namespace TextAdventure

open Json

namespace Transform

def ofJson? (value : Json) : Option Transform := do
  let r ← Record.ofJson? ["from", "to"] value
  return {
    source := ← r.optional "from" none (nullable? text?)
    result := ← r.optional "to" none (nullable? text?) }

def name (name? : Option String) : Json :=
  match name? with
  | some name => text name
  | none => .null

def toJson (t : Transform) : Json :=
  members [("from", name t.source), ("to", name t.result)]

end Transform

namespace Interaction

def ofJson? (value : Json) : Option Interaction := do
  let r ← Record.ofJson?
    ["message", "new_description", "requires", "transforms", "unhides", "unlocks", "discovers"]
    value
  return {
    message := ← r.optional "message" "" text?
    newDescription := ← r.optional "new_description" none (nullable? (listOf? text?))
    requires := ← r.optional "requires" [] (listOf? text?)
    transforms := ← r.optional "transforms" [] (listOf? Transform.ofJson?)
    unhides := ← r.optional "unhides" [] (listOf? text?)
    unlocks := ← r.optional "unlocks" [] (listOf? text?)
    discovers := ← r.optional "discovers" [] (listOf? text?) }

def toJson (i : Interaction) : Json :=
  members [
    ("message", text i.message),
    ("new_description", match i.newDescription with
      | some fragments => texts fragments
      | none => .null),
    ("requires", texts i.requires),
    ("transforms", .array (i.transforms.map Transform.toJson)),
    ("unhides", texts i.unhides),
    ("unlocks", texts i.unlocks),
    ("discovers", texts i.discovers)]

end Interaction

namespace Item

def ofJson? (value : Json) : Option Item := do
  let r ← Record.ofJson?
    ["name", "alias", "description", "look_at_message", "is_collectible", "discovered",
      "interactions", "locked", "hidden"]
    value
  return {
    name := ← r.required "name" text?
    aliases := ← r.optional "alias" [] (listOf? text?)
    description := ← r.optional "description" [] (listOf? text?)
    lookLines := ← r.optional "look_at_message" [] (pairsOf? text?)
    collectible := ← r.optional "is_collectible" false flag?
    discovered := ← r.optional "discovered" false flag?
    interactions := ← r.optional "interactions" ∅ (mapOf? Interaction.ofJson?)
    locked := ← r.optional "locked" false flag?
    hidden := ← r.optional "hidden" false flag? }

def toJson (item : Item) : Json :=
  members [
    ("name", text item.name),
    ("alias", texts item.aliases),
    ("description", texts item.description),
    ("look_at_message", members (item.lookLines.map fun (key, line) => (key, text line))),
    ("is_collectible", .bool item.collectible),
    ("discovered", .bool item.discovered),
    ("interactions", ofMap Interaction.toJson item.interactions),
    ("locked", .bool item.locked),
    ("hidden", .bool item.hidden)]

end Item

namespace Blocker

def ofJson? (value : Json) : Option Blocker := do
  let r ← Record.ofJson? ["name", "message"] value
  return {
    objective := ← r.required "name" text?
    message := ← r.required "message" text? }

def toJson (b : Blocker) : Json :=
  members [("name", text b.objective), ("message", text b.message)]

end Blocker

namespace Room

def ofJson? (value : Json) : Option Room := do
  let r ← Record.ofJson?
    ["name", "description", "short_description", "exits", "directional_exits", "aliases",
      "blockers", "inventory", "starting_inventory"]
    value
  return {
    name := ← r.required "name" text?
    description := ← r.optional "description" [] (pairsOf? text?)
    shortDescription := ← r.optional "short_description" "" text?
    exits := ← r.optional "exits" [] (listOf? text?)
    directionalExits := ← r.optional "directional_exits" ∅ (mapOf? text?)
    aliases := ← r.optional "aliases" [] (listOf? text?)
    blockers := ← r.optional "blockers" [] (listOf? Blocker.ofJson?)
    inventory := ← r.optional "inventory" [] (listOf? text?)
    startingInventory := ← r.optional "starting_inventory" [] (listOf? text?) }

def toJson (room : Room) : Json :=
  members [
    ("name", text room.name),
    ("description", members (room.description.map fun (key, fragment) => (key, text fragment))),
    ("short_description", text room.shortDescription),
    ("exits", texts room.exits),
    ("directional_exits", ofMap text room.directionalExits),
    ("aliases", texts room.aliases),
    ("blockers", .array (room.blockers.map Blocker.toJson)),
    ("inventory", texts room.inventory),
    ("starting_inventory", texts room.startingInventory)]

end Room

namespace Player

def ofJson? (value : Json) : Option Player := do
  let r ← Record.ofJson?
    ["name", "location", "visited_rooms", "inventory", "won", "watched_end_credits"]
    value
  return {
    name := ← r.optional "name" "" text?
    location := ← r.optional "location" "entry" text?
    visitedRooms := ← r.optional "visited_rooms" [] (listOf? text?)
    inventory := ← r.optional "inventory" [] (listOf? text?)
    won := ← r.optional "won" false flag?
    watchedCredits := ← r.optional "watched_end_credits" false flag? }

def toJson (player : Player) : Json :=
  members [
    ("name", text player.name),
    ("location", text player.location),
    ("visited_rooms", texts player.visitedRooms),
    ("inventory", texts player.inventory),
    ("won", .bool player.won),
    ("watched_end_credits", .bool player.watchedCredits)]

end Player

namespace Marker

def ofJson? (value : Json) : Option Marker := do
  let r ← Record.ofJson? ["item", "interaction_type", "complete"] value
  return {
    item := ← r.required "item" text?
    action := ← r.required "interaction_type" text?
    complete := ← r.optional "complete" false flag? }

def toJson (marker : Marker) : Json :=
  members [
    ("item", text marker.item),
    ("interaction_type", text marker.action),
    ("complete", .bool marker.complete)]

end Marker

namespace Objective

def ofJson? (value : Json) : Option Objective := do
  let r ← Record.ofJson? ["name", "hints", "requires", "interactions"] value
  return {
    name := ← r.required "name" text?
    hints := ← r.optional "hints" [] (listOf? text?)
    requires := ← r.optional "requires" [] (listOf? text?)
    markers := ← r.optional "interactions" [] (listOf? Marker.ofJson?) }

def toJson (objective : Objective) : Json :=
  members [
    ("name", text objective.name),
    ("hints", texts objective.hints),
    ("requires", texts objective.requires),
    ("interactions", .array (objective.markers.map Marker.toJson))]

end Objective

end TextAdventure
