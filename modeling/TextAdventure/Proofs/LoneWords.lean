import TextAdventure.Proofs.Referents

/-!
# Words alone

A word alone that is in no table of the vocabulary is taken for a place to walk to.  If it leads to
a room then it is read as the way there, and if not it should be read as nothing (`World.wayTo`).
Two kinds of words go astray: one that refers to an item at hand is read as a walk to the item, and
one that leads to a room whose name is empty is read as nothing (`World.Strays`).
-/

set_option autoImplicit false

namespace TextAdventure

/-! ## Words that no table lists -/

namespace Vocabulary

variable {v : Vocabulary} {phrase : String}

def Unlisted (v : Vocabulary) (phrase : String) : Prop :=
  ∀ table, v.lists table (normalize phrase) = false

theorem unlisted_of_entries (free : ∀ entry ∈ v.tables.entries, normalize phrase ∉ entry.2) :
    v.Unlisted phrase := by
  intro table
  unfold lists phrases
  cases found : v.tables.find? table with
  | none => rfl
  | some listed => simpa using free _ (NameMap.mem_of_find? found)

theorem Unlisted.firstListing? (unlisted : v.Unlisted phrase) {α : Type}
    (tables : List (String × α)) : v.firstListing? tables phrase = none :=
  firstListing?_eq_none_iff.mpr fun entry _ => unlisted entry.1

theorem Unlisted.action (unlisted : v.Unlisted phrase) : v.action phrase = .unknown := by
  rw [Vocabulary.action, unlisted.firstListing?, Option.getD_none]

theorem Unlisted.keyword? (unlisted : v.Unlisted phrase) : v.keyword? phrase = none :=
  unlisted.firstListing? keywordTables

end Vocabulary

/-! ## The way to a room -/

namespace World

/-- What a word asks for if it is the name of a place or nothing. -/
def wayTo (w : World) (word : String) : Intent :=
  match w.room? word with
  | some room => .withTarget .move room.name
  | none => .untargeted .unknown

/-- The words that are read in another way, and how: those that lead to a room without a name, and
those that lead to no room but refer to an item at hand. -/
inductive Strays (w : World) (word : String) : Intent → Prop
  | nameless {room : Room} (leads : w.room? word = some room) (empty : room.name = "") :
      Strays w word (.untargeted .unknown)
  | item {item : Item} (nowhere : w.room? word = none) (near : w.nearbyItem? word = some item)
      (proper : item.name ≠ "") : Strays w word (.withTarget .move item.name)

theorem Strays.ne_wayTo {w : World} {word : String} {intent : Intent}
    (strays : w.Strays word intent) : intent ≠ w.wayTo word := by
  cases strays with
  | nameless leads => simp [wayTo, leads, Intent.untargeted, Intent.withTarget]
  | item nowhere => simp [wayTo, nowhere, Intent.untargeted, Intent.withTarget]

end World

/-! ## Reading a word alone -/

namespace Reader

variable {r : Reader} {line word : String}

theorem lower_of_mem_words (member : word ∈ r.words line) : Text.lower word = word := by
  obtain ⟨raw, _, rfl⟩ := List.mem_map.mp (List.mem_of_mem_filter member)
  exact Text.lower_lower raw

section Alone

variable (player : r.scene.fromPlayer = true) (alone : r.words line = [word])
  (unlisted : r.scene.vocabulary.Unlisted word)

include player alone unlisted

/-- What the word refers to: a room, or else an item at hand. -/
theorem target?_alone :
    r.scene.target? [word] =
      (((r.scene.world.room? word).map (·.name)).or
        ((r.scene.world.nearbyItem? word).map (·.name))).filter (!·.isEmpty) := by
  have member : word ∈ r.words line := by rw [alone]; exact List.mem_singleton_self word
  have single : ∀ w ∈ [word], Text.IsWord w := fun w same =>
    List.mem_singleton.mp same ▸ isWord_of_mem_words word member
  have proper := Text.isVoid_intercalate single (List.cons_ne_nil word [])
  rw [String.intercalate_singleton] at proper
  rw [Scene.target?, Scene.resolve?, String.intercalate_singleton, lower_of_mem_words member,
    Scene.find?_of_player player, if_neg (by simp [proper]), Scene.referent?_eq,
    unlisted.keyword?, Option.none_or]

omit player in
theorem interpret_alone (d : Dialogue) :
    (r.interpret line d).1 =
      match r.scene.target? [word] with
      | some target => .withTarget .move target
      | none => .untargeted .unknown := by
  simp only [interpret, alone, oneWord, action_of_unknown unlisted.action d]
  cases r.scene.target? [word] <;> rfl

theorem interpret_of_strays {intent : Intent} (strays : r.scene.world.Strays word intent)
    (d : Dialogue) : (r.interpret line d).1 = intent := by
  rw [interpret_alone alone unlisted, target?_alone player alone unlisted]
  cases strays with
  | nameless leads empty => simp [leads, empty, Option.filter_some]
  | item nowhere near proper => simp [nowhere, near, proper, Option.filter_some]

theorem interpret_eq_wayTo (straight : ∀ intent, ¬r.scene.world.Strays word intent)
    (d : Dialogue) : (r.interpret line d).1 = r.scene.world.wayTo word := by
  rw [interpret_alone alone unlisted, target?_alone player alone unlisted, World.wayTo]
  cases leads : r.scene.world.room? word with
  | some room =>
      have proper : room.name ≠ "" := fun empty => straight _ (.nameless leads empty)
      simp [proper, Option.filter_some]
  | none =>
      cases near : r.scene.world.nearbyItem? word with
      | some item =>
          have empty : item.name = "" := by
            by_contra proper
            exact straight _ (.item leads near proper)
          simp [empty, Option.filter_some]
      | none => simp

end Alone

/-- A word alone of the player that is in no table is read as the way to the room that it leads to,
or as nothing if there is no such room, exactly if it does not go astray. -/
theorem lone_word_is_the_way_iff (r : Reader) (player : r.scene.fromPlayer = true)
    {line word : String} (alone : r.words line = [word])
    (unlisted : r.scene.vocabulary.Unlisted word) (d : Dialogue) :
    ((r.interpret line d).1 = r.scene.world.wayTo word ↔
      ∀ intent, ¬r.scene.world.Strays word intent) ∧
    ∀ intent, r.scene.world.Strays word intent → (r.interpret line d).1 = intent := by
  have astray : ∀ intent, r.scene.world.Strays word intent → (r.interpret line d).1 = intent :=
    fun intent strays => interpret_of_strays player alone unlisted strays d
  refine ⟨⟨?_, ?_⟩, astray⟩
  · intro straight intent strays
    exact strays.ne_wayTo ((astray intent strays).symm.trans straight)
  · intro straight
    exact interpret_eq_wayTo player alone unlisted straight d

end Reader

namespace PickleQuest

theorem lounge_is_the_way :
    (game.reader true).words " the Lounge" = ["lounge"] ∧ game.vocabulary.Unlisted "lounge" ∧
      ((game.reader true).interpret " the Lounge" game.dialogue).1 =
        .withTarget .move "living room" := by
  have known : (game.reader true).words " the Lounge" = ["lounge"] ∧
      (∀ entry ∈ game.vocabulary.tables.entries, Vocabulary.normalize "lounge" ∉ entry.2) ∧
      (game.reader true).scene.world.room? "lounge" = some livingRoom := by
    decide +kernel
  obtain ⟨alone, entries, leads⟩ := known
  have unlisted := Vocabulary.unlisted_of_entries entries
  have straight : ∀ intent, ¬(game.reader true).scene.world.Strays "lounge" intent := by
    rintro intent (⟨named, empty⟩ | ⟨nowhere⟩)
    · rw [← Option.some.inj (leads.symm.trans named)] at empty
      exact nomatch empty
    · exact nomatch leads.symm.trans nowhere
  obtain ⟨way, _⟩ := (game.reader true).lone_word_is_the_way_iff rfl alone unlisted game.dialogue
  refine ⟨alone, unlisted, ?_⟩
  rw [way.mpr straight, World.wayTo, leads]
  rfl

/-- The doormat in the entry is no place to walk to. -/
theorem doormat_is_walked_to :
    (game.reader true).words "doormat" = ["doormat"] ∧ game.vocabulary.Unlisted "doormat" ∧
      game.world.wayTo "doormat" = .untargeted .unknown ∧
      ((game.reader true).interpret "doormat" game.dialogue).1 = .withTarget .move "doormat" := by
  have known : (game.reader true).words "doormat" = ["doormat"] ∧
      (∀ entry ∈ game.vocabulary.tables.entries, Vocabulary.normalize "doormat" ∉ entry.2) ∧
      game.world.wayTo "doormat" = .untargeted .unknown ∧
      ((game.reader true).interpret "doormat" game.dialogue).1 = .withTarget .move "doormat" := by
    decide +kernel
  obtain ⟨alone, entries, reading⟩ := known
  exact ⟨alone, Vocabulary.unlisted_of_entries entries, reading⟩

end PickleQuest

end TextAdventure
