import Mathlib.Data.List.Forall2
import TextAdventure.PickleQuest
import TextAdventure.Proofs.RecordText

/-!
# The save format can be read back

The interactions of an item and the directional exits of a room are maps, so their members may be
written in any order; of all the rest of a world the order counts.  Whatever order was taken, the
four texts of a world give back the player, the rooms and the items as they were, and the objectives
without their counts of hints.
-/

set_option autoImplicit false

namespace TextAdventure

namespace Json

/-- An object with another value under one of its names. -/
def withMember (whole : Json) (name : String) (value : Json) : Json :=
  match whole with
  | .object fields =>
      .object (fields.map fun field => if field.1 = some name then (field.1, value) else field)
  | other => other

theorem withMember_members (fields : List (String × Json)) (name : String) (value : Json) :
    (members fields).withMember name value =
      members (fields.map fun field => if field.1 = name then (field.1, value) else field) := by
  simp only [members, withMember, List.map_map]
  congr 1
  refine List.map_congr_left fun field _ => ?_
  by_cases same : field.1 = name
  · simp [same]
  · simp [same]

variable {α : Type} {encode : α → Json} {decode : Json → Option α}

/-- A map with its members in the given order. -/
def ofOrder (encode : α → Json) (order : List (String × α)) : Json :=
  members (order.map fun (name, value) => (name, encode value))

theorem mapOf?_ofOrder (h : Restores id encode decode) {m : NameMap α} {order : List (String × α)}
    (perm : order.Perm m.entries) : mapOf? decode (ofOrder encode order) = some m := by
  have entries := h.pairs.read order
  simp only [id_eq] at entries
  simp [mapOf?, ofOrder, entries, NameMap.ofList_perm perm]

theorem plain_ofOrder (h : Restores id encode decode) (order : List (String × α)) :
    Plain (ofOrder encode order) :=
  h.pairs.plain order

/-- If what is written for each element is plain and is read as the element, so is the list. -/
theorem decode_array {written : α → Json → Prop}
    (sound : ∀ a value, written a value → decode value = some a ∧ Plain value) {l : List α}
    {values : List Json} (each : List.Forall₂ written l values) :
    TextAdventure.decode (listOf? decode) (Json.array values).toText = .ok l := by
  have whole : values.mapM decode = some l ∧ ∀ value ∈ values, Plain value := by
    induction each with
    | nil => exact ⟨rfl, fun _ member => nomatch member⟩
    | cons first _ ih =>
        obtain ⟨read, plain⟩ := sound _ _ first
        obtain ⟨others, plainOthers⟩ := ih
        refine ⟨by simp [List.mapM_cons, read, others], ?_⟩
        exact List.forall_mem_cons.mpr ⟨plain, plainOthers⟩
  simp [TextAdventure.decode, ofText?_toText (Plain.array values whole.2), listOf?, whole.1]

end Json

open Json

/-! ## Records with maps -/

namespace Item

/-- What may be written for an item. -/
def Spelling (item : Item) (value : Json) : Prop :=
  ∃ order : List (String × Interaction), order.Perm item.interactions.entries ∧
    value = item.toJson.withMember "interactions" (ofOrder Interaction.toJson order)

theorem spelling_toJson (item : Item) : item.Spelling item.toJson := by
  refine ⟨item.interactions.entries, List.Perm.refl _, ?_⟩
  rw [toJson, withMember_members]
  simp only [List.map_cons, List.map_nil, String.reduceEq, if_false, if_true]
  rfl

theorem read_spelling (item : Item) (value : Json) (h : item.Spelling value) :
    ofJson? value = some item ∧ Plain value := by
  obtain ⟨order, perm, rfl⟩ := h
  have listed := mapOf?_ofOrder Interaction.restores perm
  rw [toJson, withMember_members]
  simp only [List.map_cons, List.map_nil, String.reduceEq, if_false, if_true]
  constructor
  · simp (disch := first | simp only [List.map_cons, List.map_nil] | decide +kernel) only [
      ofJson?, Record.ofJson?_members, Record.required_here, Record.optional_here,
      Record.optional_there, Option.pure_def, Option.bind_eq_bind, Option.bind_some,
      restores_text.read, id_eq, restores_texts.read, restores_text.pairs.read, restores_flag.read,
      listed]
  · refine Plain.members _ ?_
    simp [restores_text.plain, restores_texts.plain, restores_flag.plain,
      restores_text.pairs.plain, plain_ofOrder Interaction.restores]

end Item

namespace Room

/-- What may be written for a room. -/
def Spelling (room : Room) (value : Json) : Prop :=
  ∃ order : List (String × String), order.Perm room.directionalExits.entries ∧
    value = room.toJson.withMember "directional_exits" (ofOrder text order)

theorem spelling_toJson (room : Room) : room.Spelling room.toJson := by
  refine ⟨room.directionalExits.entries, List.Perm.refl _, ?_⟩
  rw [toJson, withMember_members]
  simp only [List.map_cons, List.map_nil, String.reduceEq, if_false, if_true]
  rfl

theorem read_spelling (room : Room) (value : Json) (h : room.Spelling value) :
    ofJson? value = some room ∧ Plain value := by
  obtain ⟨order, perm, rfl⟩ := h
  have listed := mapOf?_ofOrder restores_text perm
  rw [toJson, withMember_members]
  simp only [List.map_cons, List.map_nil, String.reduceEq, if_false, if_true]
  constructor
  · simp (disch := first | simp only [List.map_cons, List.map_nil] | decide +kernel) only [
      ofJson?, Record.ofJson?_members, Record.required_here, Record.optional_here,
      Record.optional_there, Option.pure_def, Option.bind_eq_bind, Option.bind_some,
      restores_text.read, id_eq, restores_text.pairs.read, restores_texts.read, listed,
      Blocker.restores.list.read, List.map_id_fun]
  · refine Plain.members _ ?_
    simp [restores_text.plain, restores_texts.plain, restores_text.pairs.plain,
      plain_ofOrder restores_text, Blocker.restores.list.plain]

end Room

/-! ## Worlds -/

namespace World

/-- What a save may write for a world, file by file. -/
inductive Spelling (w : World) : List (String × String) → Prop
  | texts (rooms items : List Json) (eachRoom : List.Forall₂ Room.Spelling w.rooms rooms)
      (eachItem : List.Forall₂ Item.Spelling w.items items) :
      Spelling w [
        (playerFile, w.player.toJson.toText),
        (roomsFile, (Json.array rooms).toText),
        (itemsFile, (Json.array items).toText),
        (objectivesFile, (Json.array (w.objectives.map Objective.toJson)).toText)]

theorem spelling_files (w : World) : w.Spelling w.files := by
  refine .texts _ _ ?rooms ?items
  case rooms =>
      rw [List.forall₂_map_right_iff, List.forall₂_same]
      exact fun room _ => room.spelling_toJson
  case items =>
      rw [List.forall₂_map_right_iff, List.forall₂_same]
      exact fun item _ => item.spelling_toJson

/-- The files of a world spell it, and whatever spells a world is read back as its player, its rooms
and its items, and as its objectives with no hint revealed. -/
theorem saved_texts_are_read_back (w : World) :
    w.Spelling w.files ∧
    ∀ files, w.Spelling files → ∃ player rooms items objectives,
      files = [(playerFile, player), (roomsFile, rooms), (itemsFile, items),
        (objectivesFile, objectives)] ∧
      decode Player.ofJson? player = .ok w.player ∧
      decode roomsOfJson? rooms = .ok w.rooms ∧
      decode itemsOfJson? items = .ok w.items ∧
      decode objectivesOfJson? objectives =
        .ok (w.objectives.map fun objective => { objective with hintCount := 0 }) := by
  refine ⟨w.spelling_files, ?_⟩
  rintro _ ⟨rooms, items, eachRoom, eachItem⟩
  have player := decode_toText Player.restores w.player
  have objectives := decode_toText Objective.restores.list w.objectives
  exact ⟨_, _, _, _, rfl, player, decode_array Room.read_spelling eachRoom,
    decode_array Item.read_spelling eachItem, objectives⟩

end World

namespace PickleQuest

/-- The interactions of the pickle jar are read back also when they are written last one first. -/
theorem jar_is_read_back :
    let order := pickleJar.interactions.entries.reverse
    let jar := pickleJar.toJson.withMember "interactions" (ofOrder Interaction.toJson order)
    order ≠ pickleJar.interactions.entries ∧ pickleJar.Spelling jar ∧
      decode itemsOfJson? (Json.array [jar]).toText = .ok [pickleJar] := by
  intro order jar
  have turned : order ≠ pickleJar.interactions.entries := by decide +kernel
  have spelled : pickleJar.Spelling jar := ⟨order, List.reverse_perm _, rfl⟩
  have files : World.Spelling { items := [pickleJar] } _ :=
    .texts [] [jar] .nil (.cons spelled .nil)
  obtain ⟨_, _, _, _, same, _, _, read, _⟩ :=
    ({ items := [pickleJar] } : World).saved_texts_are_read_back.2 _ files
  simp only [List.cons.injEq, Prod.mk.injEq, true_and, and_true] at same
  rw [← same.2.2.1] at read
  exact ⟨turned, spelled, read⟩

end PickleQuest

end TextAdventure
