import TextAdventure.Proofs.Movement
import TextAdventure.Proofs.OpenExits
import TextAdventure.Proofs.RealTargets

/-!
# Referring to a name that was found

A phrase refers to a keyword, to a room by name or to an item at hand, the first of these that there
is (`Scene.referent?_eq`); a direction never comes to be read as a room, since the phrases for
directions stand for keywords.

Some commands look up again the name that their words refer to.  They find the same name unless
something that comes before its bearer answers to it (`Scene.Captured`).
-/

set_option autoImplicit false

namespace TextAdventure

/-! ## What a phrase refers to -/

namespace Vocabulary

variable {v : Vocabulary} {phrase : String}

theorem firstListing?_eq_none_iff {α : Type} {tables : List (String × α)} :
    v.firstListing? tables phrase = none ↔
      ∀ entry ∈ tables, v.lists entry.1 (normalize phrase) = false := by
  simp [firstListing?]

theorem direction?_of_free (free : v.keyword? phrase = none) : v.direction? phrase = none := by
  rw [direction?, firstListing?_eq_none_iff]
  intro entry member
  obtain ⟨d, _, rfl⟩ := List.mem_map.mp member
  have keyword : (d.table, d.name) ∈ keywordTables := by cases d <;> decide
  exact firstListing?_eq_none_iff.mp free (d.table, d.name) keyword

/-- Each keyword is among the phrases that stand for it, and in no table before theirs. -/
def KeywordsStand (v : Vocabulary) : Prop :=
  ∀ keyword ∈ keywordTables.map (·.2), v.keyword? keyword = some keyword

instance (v : Vocabulary) : Decidable v.KeywordsStand :=
  inferInstanceAs
    (Decidable (∀ keyword ∈ keywordTables.map (·.2), v.keyword? keyword = some keyword))

end Vocabulary

namespace World

/-- The items that the player carries, before those that lie in the current room. -/
def itemsAtHand (w : World) : List Item :=
  (w.player.inventory ++ w.lyingHere).filterMap w.record?

variable {w : World}

theorem nearbyItem?_eq (name : String) :
    w.nearbyItem? name = w.itemsAtHand.find? (·.answersTo name) := by
  rw [itemsAtHand, List.filterMap_append, List.find?_append]
  rfl

/-- An item at hand, or another one, is found by its name. -/
theorem nearbyItem?_own {phrase : String} {item : Item}
    (found : w.nearbyItem? phrase = some item) : (w.nearbyItem? item.name).isSome = true := by
  rw [nearbyItem?_eq] at found ⊢
  exact List.find?_isSome.mpr ⟨item, List.mem_of_find?_eq_some found, item.answersTo_own⟩

/-- A room, or another one, is found by its name. -/
theorem room?_own {room : Room} (known : room ∈ w.rooms) : (w.room? room.name).isSome = true :=
  List.find?_isSome.mpr ⟨room, known, room.answersTo_name⟩

end World

namespace Scene

variable {s : Scene} {phrase name : String}

theorem referent?_eq (s : Scene) (phrase : String) :
    s.referent? phrase =
      (s.vocabulary.keyword? phrase).or
        (((s.world.room? phrase).map (·.name)).or
          ((s.world.nearbyItem? phrase).map (·.name))) := by
  cases free : s.vocabulary.keyword? phrase with
  | some keyword => rw [referent?, free, Option.some_or, Option.some_or]
  | none =>
      have undirected := Vocabulary.direction?_of_free free
      simp [referent?, free, World.destination?, World.roomInDirection?, undirected]

theorem find?_of_player (player : s.fromPlayer = true) :
    s.find? phrase = if Text.isVoid phrase then none else s.referent? phrase := by
  simp [find?, player]

/-! ## Looking up the name again -/

/-- Something else answers to a name than what bears it: the name is blank, it stands for another
keyword, or the room or the item at hand that is found by it has another name. -/
inductive Captured (s : Scene) (name : String) : Prop
  | blank (void : Text.isVoid name = true)
  | keyword {keyword : String} (means : s.vocabulary.keyword? name = some keyword)
      (other : keyword ≠ name)
  | room {room : Room} (free : s.vocabulary.keyword? name = none)
      (leads : s.world.room? name = some room) (other : room.name ≠ name)
  | item {item : Item} (free : s.vocabulary.keyword? name = none)
      (nowhere : s.world.room? name = none) (near : s.world.nearbyItem? name = some item)
      (other : item.name ≠ name)

theorem captured_iff :
    s.Captured name ↔
      Text.isVoid name = true ∨ ∃ other, s.referent? name = some other ∧ other ≠ name := by
  constructor
  · intro captured
    rw [referent?_eq]
    cases captured with
    | blank void => exact Or.inl void
    | keyword means other => exact Or.inr ⟨_, by rw [means, Option.some_or], other⟩
    | room free leads other => exact Or.inr ⟨_, by simp [free, leads], other⟩
    | item free nowhere near other => exact Or.inr ⟨_, by simp [free, nowhere, near], other⟩
  · rintro (void | ⟨other, refers, differs⟩)
    · exact .blank void
    · rw [referent?_eq, Option.or_eq_some_iff, Option.or_eq_some_iff] at refers
      rcases refers with means | ⟨free, named | ⟨unnamed, near⟩⟩
      · exact .keyword means differs
      · obtain ⟨room, leads, rfl⟩ := Option.map_eq_some_iff.mp named
        exact .room free leads differs
      · obtain ⟨item, atHand, rfl⟩ := Option.map_eq_some_iff.mp near
        exact .item free (Option.map_eq_none_iff.mp unnamed) atHand differs

/-- What a phrase refers to has a name that refers to something. -/
theorem referent?_again (stand : s.vocabulary.KeywordsStand)
    (refers : s.referent? phrase = some name) : (s.referent? name).isSome = true := by
  rw [referent?_eq, Option.or_eq_some_iff, Option.or_eq_some_iff] at refers
  rw [referent?_eq, Option.isSome_or, Option.isSome_or, Option.isSome_map, Option.isSome_map]
  rcases refers with means | ⟨_, named | ⟨_, near⟩⟩
  · rw [stand name (Vocabulary.keyword?_mem means)]
    rfl
  · obtain ⟨room, leads, rfl⟩ := Option.map_eq_some_iff.mp named
    rw [World.room?_own (World.room?_mem leads), Bool.true_or, Bool.or_true]
  · obtain ⟨item, atHand, rfl⟩ := Option.map_eq_some_iff.mp near
    rw [World.nearbyItem?_own atHand, Bool.or_true, Bool.or_true]

theorem find?_again_iff (stand : s.vocabulary.KeywordsStand) (found : s.find? phrase = some name) :
    s.find? name = some name ↔ (s.fromPlayer = true → ¬s.Captured name) := by
  cases player : s.fromPlayer with
  | false => simp [find?, player]
  | true =>
      rw [find?_of_player player, Option.ite_none_left_eq_some] at found
      obtain ⟨other, again⟩ := Option.isSome_iff_exists.mp (referent?_again stand found.2)
      rw [find?_of_player player, Option.ite_none_left_eq_some, captured_iff, again]
      constructor
      · rintro ⟨proper, same⟩ - (void | ⟨third, refers, differs⟩)
        · exact proper void
        · exact differs (Option.some.inj (refers.symm.trans same))
      · intro free
        obtain ⟨proper, same⟩ := not_or.mp (free rfl)
        refine ⟨proper, ?_⟩
        by_contra differs
        exact same ⟨other, rfl, fun equal => differs (congrArg some equal)⟩

end Scene

namespace World

variable {w : World} {v : Vocabulary}

/-- A look at a target that refers to the current room shows it exactly if the room's name leads
back to a room of that name. -/
theorem look_here_iff {target : String} {current : Room} (here : w.currentRoom? = some current)
    (found : (Scene.mk w v true).find? target = some current.name) :
    w.look v (some target) = w.look v none ↔
      ∀ room, w.room? current.name = some room → room.name = current.name := by
  have known : current ∈ w.rooms := List.mem_of_find?_eq_some here
  obtain ⟨room, leads⟩ := Option.isSome_iff_exists.mp (room?_own known)
  have destination : w.destination? v current.name = some room := by
    rw [destination?, leads, Option.some_or]
  have bare : w.look v none = w.roomView current false := by simp [look, here]
  have seen : w.look v (some target) =
      if room.name = current.name then w.roomView current false
      else .failure Reply.tooFarToSee := by
    simp [look, here, found, destination]
  rw [seen, bare, leads]
  by_cases same : room.name = current.name
  · simp [same]
  · have apart : Response.failure Reply.tooFarToSee ≠ w.roomView current false := by
      intro equal
      have status := congrArg Response.status equal
      rw [status_roomView] at status
      contradiction
    simp [same, apart]

end World

/-- Where each keyword stands for itself, a name that was found is found again exactly if nothing
else answers to it first; and the current room is seen by a phrase that refers to it exactly if the
first room that answers to its name has that name. -/
theorem Scene.name_is_found_again_iff (s : Scene) (stand : s.vocabulary.KeywordsStand)
    {phrase name : String} (found : s.find? phrase = some name) :
    (s.find? name = some name ↔ (s.fromPlayer = true → ¬s.Captured name)) ∧
    ∀ current, s.fromPlayer = true → s.world.currentRoom? = some current → current.name = name →
      (s.world.look s.vocabulary (some phrase) = s.world.look s.vocabulary none ↔
        ∀ room, s.world.room? name = some room → room.name = name) := by
  refine ⟨Scene.find?_again_iff stand found, ?_⟩
  rintro current player here rfl
  have same : Scene.mk s.world s.vocabulary true = s := by rw [← player]
  exact World.look_here_iff here (same ▸ found)

namespace PickleQuest

/-- The vocabulary with the target of the map among the phrases for the map. -/
def selfNaming : Vocabulary :=
  { game.vocabulary with
    tables := game.vocabulary.tables.insert "game_map" ["map", "show map", "game_map"] }

theorem keywordsStand_selfNaming : selfNaming.KeywordsStand := by decide +kernel

def inLivingRoom : Scene :=
  ⟨{ world with player := { player with location := "living room" } }, selfNaming, true⟩

theorem lounge_is_found_again :
    selfNaming.KeywordsStand ∧ inLivingRoom.find? "lounge" = some "living room" ∧
      inLivingRoom.find? "living room" = some "living room" ∧
      inLivingRoom.world.look selfNaming (some "lounge") =
        inLivingRoom.world.look selfNaming none := by
  have known : inLivingRoom.find? "lounge" = some "living room" ∧
      Text.isVoid "living room" = false ∧
      inLivingRoom.referent? "living room" = some "living room" ∧
      inLivingRoom.world.currentRoom? = some livingRoom ∧
      inLivingRoom.world.room? "living room" = some livingRoom := by
    decide +kernel
  obtain ⟨found, proper, own, here, leads⟩ := known
  obtain ⟨again, seen⟩ := inLivingRoom.name_is_found_again_iff keywordsStand_selfNaming found
  refine ⟨keywordsStand_selfNaming, found, again.mpr ?_, (seen livingRoom rfl here rfl).mpr ?_⟩
  · intro _ captured
    rcases Scene.captured_iff.mp captured with void | ⟨other, refers, differs⟩
    · exact nomatch proper.symm.trans void
    · exact differs (Option.some.inj (refers.symm.trans own))
  · intro room named
    rw [← Option.some.inj (leads.symm.trans named)]
    rfl

/-- A bag in the entry; its name is also a phrase for what the player carries. -/
def bag : Item where
  name := "bag"
  aliases := ["sack"]
  description := ["A canvas bag."]

def withBag : Game :=
  { game with
    world := { world with
      rooms := { entry with inventory := ["doormat", "bag"] } :: rooms.tail
      items := items ++ [bag] }
    vocabulary := selfNaming }

/-- The bag is found as the sack, and what the player carries is found as the bag. -/
theorem bag_is_captured :
    withBag.vocabulary.KeywordsStand ∧
      (withBag.reader true).scene.find? "sack" = some "bag" ∧
      (withBag.reader true).scene.find? "bag" = some "inventory" ∧
      (withBag.respond "alias sack" true).response =
        .listing (Reply.aliasesOf "inventory") ["inventory", "i", "bag", "items"] :=
  ⟨keywordsStand_selfNaming, by decide +kernel⟩

end PickleQuest

end TextAdventure
