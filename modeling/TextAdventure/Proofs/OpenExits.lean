import Mathlib.Data.List.Pairwise
import TextAdventure.Proofs.Lookup
import TextAdventure.Proofs.Movement
import TextAdventure.Proofs.Synonyms
import TextAdventure.World.Consistency

/-!
# Open exits can be walked

What the player says is looked up twice: a span of words names a target, and the walk looks for a
room of that target.  Where no two rooms share a name the second search finds the room that was
meant (`ApartRooms.room?_eq`), so an open exit can be walked by each name of the room behind it, and
also by its direction if the world has no problems.
-/

set_option autoImplicit false

namespace TextAdventure

/-! ## Rooms that share no name -/

namespace Room

def names (room : Room) : List String := room.name :: room.aliases

theorem answersTo_iff {room : Room} {name : String} :
    room.answersTo name = true ↔ ∃ own ∈ room.names, Text.sameName own name = true := by
  simp [answersTo, names]

theorem answersTo_of_mem {room : Room} {name : String} (listed : name ∈ room.names) :
    room.answersTo name = true :=
  answersTo_iff.mpr ⟨name, listed, Text.sameName_refl name⟩

theorem answersTo_name (room : Room) : room.answersTo room.name = true :=
  answersTo_of_mem List.mem_cons_self

/-- No name of the one room is, ASCII case aside, one of the other. -/
def Apart (room other : Room) : Prop := ∀ name ∈ room.names, other.answersTo name = false

instance : DecidableRel Apart := fun room other =>
  inferInstanceAs (Decidable (∀ name ∈ room.names, other.answersTo name = false))

theorem Apart.not_both {room other : Room} (apart : room.Apart other) {name : String}
    (answers : room.answersTo name = true) : other.answersTo name = false := by
  obtain ⟨own, listed, same⟩ := answersTo_iff.mp answers
  have folded : own.toList.map Char.toLower = name.toList.map Char.toLower := beq_iff_eq.mp same
  have unknown := apart own listed
  simp only [answersTo, Text.sameName, folded] at unknown ⊢
  exact unknown

instance : Std.Symm Apart where
  symm room other apart := by
    intro name listed
    rw [← Bool.not_eq_true]
    intro answers
    have unknown := apart.not_both answers
    rw [answersTo_of_mem listed] at unknown
    contradiction

end Room

namespace World

/-- No string is a name or an alias of two rooms, ASCII case aside. -/
def ApartRooms (w : World) : Prop := w.rooms.Pairwise Room.Apart

instance (w : World) : Decidable w.ApartRooms := inferInstanceAs (Decidable (List.Pairwise _ _))

namespace ApartRooms

variable {w : World} (apart : w.ApartRooms)

include apart

theorem eq_of_answersTo {room other : Room} (member : room ∈ w.rooms) (listed : other ∈ w.rooms)
    {name : String} (answers : room.answersTo name = true) (too : other.answersTo name = true) :
    room = other := by
  by_contra differ
  have unknown := (apart.forall member listed differ).not_both answers
  rw [too] at unknown
  contradiction

theorem room?_eq {room : Room} (member : room ∈ w.rooms) {name : String}
    (answers : room.answersTo name = true) : w.room? name = some room := by
  apply find?_of_only member answers
  intro other listed too
  exact apart.eq_of_answersTo listed member too answers

theorem distinctRooms : w.DistinctRooms := by
  refine List.pairwise_map.mpr (apart.imp ?_)
  intro room other unknown same
  have answers := unknown.not_both room.answersTo_name
  rw [same, other.answersTo_name] at answers
  contradiction

end ApartRooms

/-! ## Open exits -/

/-- A room other than the current one that an exit leads to, with no blocker in the way. -/
structure OpensTo (w : World) (current room : Room) : Prop where
  here : w.currentRoom? = some current
  known : room ∈ w.rooms
  away : room ≠ current
  exit : room.name ∈ current.exits
  unblocked : w.unmetBlocker? room = none

theorem OpensTo.canWalk {w : World} {current room : Room} (opens : w.OpensTo current room)
    (apart : w.ApartRooms) {v : Vocabulary} {target : String}
    (found : w.destination? v target = some room) : w.CanWalk v (some target) room := by
  refine ⟨found, opens.unblocked, current, opens.here, ?_, List.contains_iff_mem.mpr opens.exit⟩
  have member : current ∈ w.rooms := List.mem_of_find?_eq_some opens.here
  rw [← Bool.not_eq_true]
  intro same
  have answers : current.answersTo room.name = true := by
    rw [isHere, Bool.or_eq_true, beq_iff_eq, List.contains_iff_mem] at same
    apply Room.answersTo_of_mem
    rcases same with own | other
    · rw [← own]
      exact List.mem_cons_self
    · exact List.mem_cons_of_mem _ other
  exact opens.away (apart.eq_of_answersTo opens.known member room.answersTo_name answers)

end World

namespace Game

open World

/-- A line that asks to walk to a target leaves the player in the room that the target leads to. -/
theorem arrives (g : Game) {line : String} {fromPlayer : Bool} {target : String} {room : Room}
    (asked : (g.interpret line fromPlayer).1.Alike (.withTarget .move target))
    (proper : target ≠ "") (can : g.world.CanWalk g.vocabulary (some target) room)
    (distinct : g.world.DistinctRooms) :
    (g.respond line fromPlayer).response.status = .success ∧
      (g.respond line fromPlayer).state.world.currentRoom? = some room := by
  have primary : (Intent.withTarget .move target).primaryTarget? = some target := by
    simp [Intent.withTarget, Intent.primaryTarget?, proper]
  obtain ⟨entered, _, walked⟩ := can.walk_eq
  obtain ⟨_, legal⟩ := can.legal distinct
  have moves : (g.interpret line fromPlayer).2.carryOut (g.interpret line fromPlayer).1 =
      (g.interpret line fromPlayer).2.inWorld ⟨g.world.movePlayer room.name,
        (g.world.movePlayer room.name).roomView entered
          (g.world.player.hasVisited room.name)⟩ := by
    rw [carryOut_of_alike _ asked, ← walked, ← primary]
    rfl
  have grouped : (g.interpret line fromPlayer).1.action.group? = some .movement := by
    rw [asked.action]
    rfl
  rw [g.respond_carryOut line fromPlayer (by rw [grouped]; decide), moves]
  exact ⟨status_roomView _ _ _, legal.arrived⟩

end Game

/-! ## What words refer to -/

theorem Text.isVoid_intercalate {ws : List String} (each : ∀ w ∈ ws, IsWord w)
    (nonempty : ws ≠ []) : isVoid (" ".intercalate ws) = false := by
  obtain ⟨c, first, letter⟩ := (tight_intercalate each nonempty).first
  rw [isVoid, List.all_eq_false]
  exact ⟨c, List.mem_of_head? first, by simp [letter]⟩

namespace Scene

theorem referent?_of_keyword {s : Scene} {phrase keyword : String}
    (means : s.vocabulary.keyword? phrase = some keyword) : s.referent? phrase = some keyword := by
  rw [referent?, means, Option.some_or]

theorem referent?_of_room {s : Scene} {phrase : String} {room : Room}
    (free : s.vocabulary.keyword? phrase = none) (named : s.world.room? phrase = some room) :
    s.referent? phrase = some room.name := by
  rw [referent?, free, Option.none_or, World.destination?, named]
  rfl

theorem target?_spoken {s : Scene} {words : List String} (nonempty : words ≠ []) {target : String}
    (player : s.fromPlayer = true) (each : ∀ w ∈ words, Text.IsWord w)
    (refers : s.referent? (" ".intercalate (words.map Text.lower)) = some target)
    (proper : target ≠ "") : s.target? (words.map Text.lower) = some target := by
  have twice : Text.lower ∘ Text.lower = Text.lower := funext Text.lower_lower
  have spoken := Text.isVoid_intercalate (Text.isWord_of_mem_lowered each) (by simpa using nonempty)
  have found : s.resolve? (words.map Text.lower) = some target := by
    rw [resolve?, Text.lower_intercalate, List.map_map, twice, find?, player, spoken]
    exact refers
  rw [target?, found, Option.filter_some]
  simp [proper]

end Scene

/-! ## By name -/

namespace Game

open World

/-- Where no two rooms share a name, each room behind an open exit can be walked into with any
phrase for walking and any of its names that is no keyword, unless its own name is empty. -/
theorem open_exit_is_walked (g : Game) (apart : g.world.ApartRooms) {current room : Room}
    (opens : g.world.OpensTo current room) (proper : room.name ≠ "") {words phrase : List String}
    (called : " ".intercalate words ∈ room.names) (ascii : Text.IsAscii (" ".intercalate words))
    (nonempty : words ≠ []) (spoken : ∀ w ∈ words, g.vocabulary.Keeps w)
    (free : g.vocabulary.keyword? (" ".intercalate words) = none)
    (verb : g.vocabulary.Verb .move words phrase) :
    (g.respond (" ".intercalate (phrase ++ words)) true).response.status = .success ∧
      (g.respond (" ".intercalate (phrase ++ words)) true).state.world.currentRoom? =
        some room := by
  have each : ∀ w ∈ words, Text.IsWord w := fun w member => (spoken w member).word
  have answers : room.answersTo (" ".intercalate (words.map Text.lower)) = true := by
    rw [← Text.lower_intercalate]
    exact Room.answersTo_iff.mpr ⟨_, called, Text.sameName_lower ascii⟩
  have named := apart.room?_eq opens.known answers
  have target : (g.reader true).scene.target? (words.map Text.lower) = some room.name := by
    have meaningless := (g.vocabulary.keyword?_lowered each).trans free
    exact Scene.target?_spoken nonempty rfl each (Scene.referent?_of_room meaningless named) proper
  have opened : (g.reader true).Opens .move := ⟨by decide, by decide, by decide, nofun, nofun⟩
  obtain ⟨intent, heard, alike⟩ := opened.interpret_line verb spoken g.dialogue
  have walks : ((g.reader true).action (" ".intercalate phrase) g.dialogue).1 = .move := by
    have meaning : (g.reader true).scene.vocabulary.action (" ".intercalate phrase) = .move :=
      verb.meaning
    simp only [Reader.action, meaning]
  rw [walks, Scene.targets_of_whole (by simpa using nonempty) target] at alike
  -- The target is the room's own name, which the walk looks up once more.
  have again : g.world.destination? g.vocabulary room.name = some room := by
    rw [destination?, apart.room?_eq opens.known room.answersTo_name, Option.some_or]
  refine g.arrives ?_ proper (opens.canWalk apart again) apart.distinctRooms
  rw [g.interpret_eq heard]
  exact alike

end Game

namespace PickleQuest

theorem living_room_is_walked :
    let walked := game.respond (" ".intercalate (["Walk"] ++ ["living", "room"])) true
    walked.response.status = .success ∧ walked.state.world.currentRoom? = some livingRoom := by
  have known : game.world.ApartRooms ∧ game.world.currentRoom? = some entry ∧
      livingRoom ∈ game.world.rooms ∧ game.world.unmetBlocker? livingRoom = none ∧
      (∀ w ∈ ["living", "room"], game.vocabulary.Keeps w) ∧
      game.vocabulary.keyword? "living room" = none ∧
      (∀ w ∈ ["Walk"], game.vocabulary.Keeps w) ∧ game.vocabulary.action "Walk" = .move ∧
      game.vocabulary.action "Walk living" = .unknown := by
    decide +kernel
  obtain ⟨apart, here, listed, unblocked, spoken, free, kept, meaning, unjoined⟩ := known
  have opens : game.world.OpensTo entry livingRoom :=
    ⟨here, listed, by decide, by decide, unblocked⟩
  have verb : game.vocabulary.Verb .move ["living", "room"] ["Walk"] :=
    ⟨Or.inl rfl, kept, meaning, fun _ w next => Option.some.inj next ▸ unjoined⟩
  exact game.open_exit_is_walked apart opens (by decide) (by decide) (by decide) (by decide) spoken
    free verb

/-- A room with an alias, whose name is empty. -/
def attic : Room where
  name := ""
  description := [("intro", "You are among the rafters.")]
  shortDescription := "The attic."
  aliases := ["attic"]

def entryBelow : Room := { entry with exits := entry.exits ++ [""] }

/-- The house with an attic over the entry. -/
def houseWithAttic : Game :=
  { game with world := { world with rooms := [entryBelow, kitchen, pantry, livingRoom, attic] } }

/-- An empty name is no target, and this alone keeps the player out of the attic. -/
theorem attic_is_not_entered :
    houseWithAttic.world.ApartRooms ∧
      (∀ room ∈ houseWithAttic.world.rooms, ∀ name ∈ room.names, Text.IsAscii name) ∧
      houseWithAttic.world.OpensTo entryBelow attic ∧ "attic" ∈ attic.names ∧
      houseWithAttic.vocabulary.Keeps "attic" ∧
      houseWithAttic.vocabulary.keyword? "attic" = none ∧
      houseWithAttic.vocabulary.Verb .move ["attic"] ["go"] ∧
      (houseWithAttic.respond "go attic" true).response.status = .failure ∧
      (houseWithAttic.respond "go attic" true).state.world.player.location = "entry" := by
  have known : houseWithAttic.world.ApartRooms ∧
      (∀ room ∈ houseWithAttic.world.rooms, ∀ name ∈ room.names, Text.IsAscii name) ∧
      houseWithAttic.world.currentRoom? = some entryBelow ∧
      attic ∈ houseWithAttic.world.rooms ∧ houseWithAttic.world.unmetBlocker? attic = none ∧
      houseWithAttic.vocabulary.Keeps "attic" ∧
      houseWithAttic.vocabulary.keyword? "attic" = none ∧
      (∀ w ∈ ["go"], houseWithAttic.vocabulary.Keeps w) ∧
      houseWithAttic.vocabulary.action "go" = .move ∧
      houseWithAttic.vocabulary.action "go attic" = .unknown ∧
      (houseWithAttic.respond "go attic" true).response.status = .failure ∧
      (houseWithAttic.respond "go attic" true).state.world.player.location = "entry" := by
    decide +kernel
  obtain ⟨apart, ascii, here, listed, unblocked, spoken, free, kept, meaning, unjoined, refused⟩ :=
    known
  have opens : houseWithAttic.world.OpensTo entryBelow attic :=
    ⟨here, listed, by decide, by decide, unblocked⟩
  have verb : houseWithAttic.vocabulary.Verb .move ["attic"] ["go"] :=
    ⟨Or.inl rfl, kept, meaning, fun _ w next => Option.some.inj next ▸ unjoined⟩
  exact ⟨apart, ascii, opens, by decide, spoken, free, verb, refused⟩

end PickleQuest

/-! ## By direction -/

theorem NameMap.mem_of_find? {α : Type} {m : NameMap α} {name : String} {value : α}
    (found : m.find? name = some value) : (name, value) ∈ m.entries := by
  obtain ⟨before, after, split, _⟩ := List.lookup_eq_some_iff.mp found
  rw [split]
  simp

namespace World

theorem hasRoom_iff {w : World} {name : String} :
    w.hasRoom name = true ↔ ∃ room ∈ w.rooms, room.name = name := by
  simp [hasRoom]

/-- In a world without problems a directional exit is an exit, and leads to a room of that name. -/
theorem exit_of_direction {w : World} (sound : w.problems = []) {current : Room}
    (member : current ∈ w.rooms) {direction target : String}
    (directed : current.directionalExit? direction = some target) :
    target ∈ current.exits ∧ ∃ room ∈ w.rooms, room.name = target := by
  simp only [problems, List.append_eq_nil_iff, List.flatMap_eq_nil_iff] at sound
  have clean := sound.1.2 current member
  simp only [roomProblems, List.append_eq_nil_iff, List.map_eq_nil_iff, List.filter_eq_nil_iff,
    Bool.not_eq_true', Bool.not_eq_false] at clean
  obtain ⟨⟨⟨exits, directions⟩, _⟩, _⟩ := clean
  have exit : target ∈ current.exits := List.contains_iff_mem.mp <|
    directions _ (NameMap.mem_of_find? directed)
  exact ⟨exit, hasRoom_iff.mp (exits target exit)⟩

end World

namespace Game

open World

theorem interpret_keyword (g : Game) {word keyword : String} (spoken : g.vocabulary.Keeps word)
    (idle : g.vocabulary.action word = .unknown)
    (means : g.vocabulary.keyword? word = some keyword) (proper : keyword ≠ "") :
    (g.interpret word true).1 = .withTarget .move keyword := by
  have single : ∀ w ∈ [word], g.vocabulary.Keeps w := by simpa using spoken
  have each : ∀ w ∈ [word], Text.IsWord w := fun w member => (single w member).word
  have words := (g.reader true).words_line single
  have unknown := g.vocabulary.action_lowered each
  have refers := g.vocabulary.keyword?_lowered each
  have line : " ".intercalate [word] = word := String.intercalate_singleton
  rw [line, idle] at unknown
  rw [line, means] at refers
  have target : (g.reader true).scene.target? ([word].map Text.lower) = some keyword :=
    Scene.target?_spoken (List.cons_ne_nil _ _) rfl each (Scene.referent?_of_keyword refers) proper
  simp only [List.map_singleton, String.intercalate_singleton] at words unknown target
  have heard : (g.reader true).action (Text.lower word) g.dialogue = (.unknown, g.dialogue) :=
    Reader.action_of_unknown unknown g.dialogue
  simp only [interpret, Reader.interpret, words, Reader.oneWord, heard, target]

/-- In a world without problems in which no two rooms share a name, a word for a direction alone is
enough to walk into the room that lies there. -/
theorem validated_direction_is_walked (g : Game) (sound : g.world.problems = [])
    (apart : g.world.ApartRooms) {d : Direction} (plain : g.world.room? d.name = none)
    (own : g.vocabulary.direction? d.name = some d) {word : String}
    (spoken : g.vocabulary.Keeps word) (idle : g.vocabulary.action word = .unknown)
    (means : g.vocabulary.keyword? word = some d.name) {current room : Room}
    (here : g.world.currentRoom? = some current) {target : String}
    (directed : current.directionalExit? d.name = some target)
    (leads : g.world.room? target = some room) (away : room ≠ current)
    (unblocked : g.world.unmetBlocker? room = none) :
    (g.respond word true).response.status = .success ∧
      (g.respond word true).state.world.currentRoom? = some room := by
  have member : current ∈ g.world.rooms := List.mem_of_find?_eq_some here
  obtain ⟨exit, other, listed, named⟩ := exit_of_direction sound member directed
  have same := apart.room?_eq listed (named ▸ other.answersTo_name)
  have opens : g.world.OpensTo current room := by
    refine ⟨here, room?_mem leads, away, ?_, unblocked⟩
    rw [same] at leads
    rwa [← Option.some.inj leads, named]
  have found : g.world.destination? g.vocabulary d.name = some room := by
    simp [destination?, roomInDirection?, plain, own, here, directed, leads]
  have proper : d.name ≠ "" := by cases d <;> decide
  refine g.arrives ?_ proper (opens.canWalk apart found) apart.distinctRooms
  rw [g.interpret_keyword spoken idle means proper]
  exact .refl _

end Game

namespace PickleQuest

theorem living_room_is_east :
    (game.respond "E" true).response.status = .success ∧
      (game.respond "E" true).state.world.currentRoom? = some livingRoom := by
  have said : game.world.problems = [] ∧ game.world.ApartRooms ∧
      game.world.room? Direction.east.name = none ∧
      game.vocabulary.direction? Direction.east.name = some .east ∧
      game.vocabulary.Keeps "E" ∧ game.vocabulary.action "E" = .unknown ∧
      game.vocabulary.keyword? "E" = some Direction.east.name ∧
      game.world.currentRoom? = some entry ∧
      entry.directionalExit? Direction.east.name = some "living room" ∧
      game.world.room? "living room" = some livingRoom ∧
      game.world.unmetBlocker? livingRoom = none := by
    decide +kernel
  obtain ⟨sound, apart, plain, own, spoken, idle, means, here, directed, leads, unblocked⟩ := said
  exact game.validated_direction_is_walked sound apart plain own spoken idle means here directed
    leads (by decide) unblocked

end PickleQuest

end TextAdventure
