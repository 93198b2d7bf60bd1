import TextAdventure.Proofs.Referents

/-!
# Names as they are typed

What the player types is lowered in full, and then compared with names ASCII case aside.  So a name
is recognized as it is typed exactly if each of its characters beyond ASCII is its own lower form
(`Text.sameName_lower_iff`), and an item is found by its own name if that holds or an alias has the
lowered name.
-/

set_option autoImplicit false

namespace TextAdventure

/-! ## Lowered names -/

namespace Text

/-- All letters of a text that have a lower form are ASCII letters. -/
def AsciiCapitals (s : String) : Prop :=
  ∀ c ∈ s.toList, 0x80 ≤ c.toNat → lowerChar c = [c]

instance (s : String) : Decidable (AsciiCapitals s) :=
  List.decidableBAll (fun c : Char => 0x80 ≤ c.toNat → lowerChar c = [c]) s.toList

theorem toLower_of_not_ascii {c : Char} (other : 0x80 ≤ c.toNat) : c.toLower = c := by
  have small : ¬c.val ≤ 'Z'.val := by
    intro below
    have bound : c.toNat ≤ 0x5A := UInt32.le_iff_toNat_le.mp below
    omega
  exact dif_neg fun capital => small capital.2

theorem toNat_toLower_ascii : ∀ c : Char, c.toNat < 0x80 → c.toLower.toNat < 0x80 :=
  forall_ascii (by decide)

theorem toLower_ne {c d : Char} (other : 0x80 ≤ c.toNat) (differs : d ≠ c) :
    d.toLower ≠ c.toLower := by
  rw [toLower_of_not_ascii other]
  by_cases ascii : d.toNat < 0x80
  · have low := toNat_toLower_ascii d ascii
    rintro rfl
    omega
  · rwa [toLower_of_not_ascii (Nat.le_of_not_lt ascii)]

/-- A character that is not its own lower form becomes another one, maybe with more after it. -/
theorem exists_lowered {c : Char} (other : 0x80 ≤ c.toNat) (changed : lowerChar c ≠ [c])
    (before rest : List Char) :
    ∃ d more, (if c = 'Σ' then [lowerSigma before rest] else lowerChar c) = d :: more ∧ d ≠ c := by
  by_cases sigma : c = 'Σ'
  · subst sigma
    refine ⟨_, [], if_pos rfl, ?_⟩
    rcases lowerSigma_cases before rest with final | inner
    · rw [final]
      decide
    · rw [inner]
      decide
  · rw [if_neg sigma]
    rcases lowerChar_cases c with same | ⟨ascii, _⟩ | long | ⟨_, _, _, m, _, lowered⟩
    · contradiction
    · omega
    · refine ⟨_, _, long, ?_⟩
      rintro rfl
      exact absurd other (by decide)
    · refine ⟨_, _, lowered, ?_⟩
      rintro same
      rw [same] at lowered
      contradiction

theorem map_lowerAfter_iff {before text : List Char} :
    (lowerAfter before text).map Char.toLower = text.map Char.toLower ↔
      ∀ c ∈ text, 0x80 ≤ c.toNat → lowerChar c = [c] := by
  induction text generalizing before with
  | nil => simp [lowerAfter]
  | cons c rest ih =>
      rw [lowerAfter, List.forall_mem_cons]
      by_cases ascii : c.toNat < 0x80
      · have noSigma : c ≠ 'Σ' := by
          rintro rfl
          exact absurd ascii (by decide)
        have twice := toLower_toLower_ascii c ascii
        have first : ¬0x80 ≤ c.toNat := Nat.not_le.mpr ascii
        simp [noSigma, lowerChar, ascii, twice, ih, first]
      · have other : 0x80 ≤ c.toNat := Nat.le_of_not_lt ascii
        by_cases same : lowerChar c = [c]
        · have noSigma : c ≠ 'Σ' := by
            rintro rfl
            exact absurd same (by decide +kernel)
          simp [noSigma, same, ih]
        · obtain ⟨d, more, lowered, differs⟩ := exists_lowered other same before rest
          rw [lowered, List.cons_append, List.map_cons, List.map_cons, List.cons.injEq]
          simp [toLower_ne other differs, other, same]

/-- A name is the same as its lowered form exactly if it has no capital letters beyond ASCII. -/
theorem sameName_lower_iff {s : String} : sameName s (lower s) = true ↔ AsciiCapitals s := by
  rw [sameName, beq_iff_eq, lower, String.toList_ofList, eq_comm, map_lowerAfter_iff]
  exact Iff.rfl

end Text

theorem Item.answersTo_lower_iff {item : Item} :
    item.answersTo (Text.lower item.name) = true ↔
      Text.AsciiCapitals item.name ∨ item.HasAlias (Text.lower item.name) := by
  rw [answersTo, Bool.or_eq_true, Text.sameName_lower_iff, List.any_eq_true]
  exact Iff.rfl

/-! ## Items at hand -/

namespace World

/-- No room answers to a name, and no item at hand but the given one does. -/
structure AnsweredOnlyBy (w : World) (item : Item) (name : String) : Prop where
  noRoom : ∀ room ∈ w.rooms, room.answersTo name = false
  noOther : ∀ other ∈ w.items, w.nearby other.name = true → other.answersTo name = true →
    other = item

instance (w : World) (item : Item) (name : String) : Decidable (w.AnsweredOnlyBy item name) :=
  decidable_of_iff
    ((∀ room ∈ w.rooms, room.answersTo name = false) ∧
      ∀ other ∈ w.items, w.nearby other.name = true → other.answersTo name = true → other = item)
    ⟨fun ⟨noRoom, noOther⟩ => ⟨noRoom, noOther⟩, fun ⟨noRoom, noOther⟩ => ⟨noRoom, noOther⟩⟩

variable {w : World} {item : Item} {name : String}

theorem nearby_iff : w.nearby name = true ↔ name ∈ w.player.inventory ++ w.lyingHere := by
  rw [nearby, inRoom, Player.holds, Bool.or_eq_true, List.contains_iff_mem, List.contains_iff_mem,
    List.mem_append]

theorem mem_itemsAtHand : item ∈ w.itemsAtHand ↔
    w.nearby item.name = true ∧ w.record? item.name = some item := by
  rw [itemsAtHand, List.mem_filterMap, nearby_iff]
  constructor
  · rintro ⟨held, listed, record⟩
    obtain rfl := record?_name record
    exact ⟨listed, record⟩
  · rintro ⟨listed, record⟩
    exact ⟨item.name, listed, record⟩

/-- The record of an item at hand that alone has its name. -/
theorem AnsweredOnlyBy.atHand (only : w.AnsweredOnlyBy item item.name) (known : item ∈ w.items)
    (near : w.nearby item.name = true) : item ∈ w.itemsAtHand := by
  refine mem_itemsAtHand.mpr ⟨near, find?_of_only known (beq_self_eq_true item.name) ?_⟩
  intro other listed same
  have named : other.name = item.name := beq_iff_eq.mp same
  exact only.noOther other listed (named ▸ near) (named ▸ other.answersTo_own)

theorem AnsweredOnlyBy.nearbyItem? (only : w.AnsweredOnlyBy item name)
    (atHand : item ∈ w.itemsAtHand) :
    w.nearbyItem? name = if item.answersTo name = true then some item else none := by
  have alone : ∀ other ∈ w.itemsAtHand, other.answersTo name = true → other = item := by
    intro other listed
    obtain ⟨near, record⟩ := mem_itemsAtHand.mp listed
    exact only.noOther other (List.mem_of_find?_eq_some record) near
  rw [nearbyItem?_eq]
  by_cases answers : item.answersTo name = true
  · rw [if_pos answers]
    exact find?_of_only atHand answers alone
  · rw [if_neg answers, List.find?_eq_none]
    intro other listed too
    exact answers (alone other listed too ▸ too)

end World

namespace Reader

/-- An item at hand whose name is made of words that are no fillers, is no keyword and is no other's
is referred to by its name as it is typed exactly if this has no capital letters beyond ASCII or is,
lowered, one of the aliases; if not then nothing is referred to. -/
theorem own_name_is_found_iff (r : Reader) (player : r.scene.fromPlayer = true) {item : Item}
    (known : item ∈ r.scene.world.items) (near : r.scene.world.nearby item.name = true)
    {ws : List String} (named : " ".intercalate ws = item.name) (nonempty : ws ≠ [])
    (spoken : ∀ w ∈ ws, r.scene.vocabulary.Keeps w)
    (free : r.scene.vocabulary.keyword? item.name = none)
    (only : r.scene.world.AnsweredOnlyBy item item.name)
    (lowered : r.scene.world.AnsweredOnlyBy item (Text.lower item.name)) :
    (r.scene.resolve? (r.words item.name) = some item.name ↔
      Text.AsciiCapitals item.name ∨ item.HasAlias (Text.lower item.name)) ∧
    (r.scene.resolve? (r.words item.name) ≠ some item.name →
      r.scene.resolve? (r.words item.name) = none) := by
  have each : ∀ w ∈ ws, Text.IsWord w := fun w member => (spoken w member).word
  have twice : Text.lower ∘ Text.lower = Text.lower := funext Text.lower_lower
  have proper := Text.isVoid_intercalate (Text.isWord_of_mem_lowered each) (by simpa using nonempty)
  have meaningless := (r.scene.vocabulary.keyword?_lowered each).trans (named.symm ▸ free)
  rw [← Text.lower_intercalate, named] at proper meaningless
  have nowhere : r.scene.world.room? (Text.lower item.name) = none := by
    rw [World.room?, List.find?_eq_none]
    simpa using lowered.noRoom
  have found : r.scene.resolve? (r.words item.name) =
      if item.answersTo (Text.lower item.name) = true then some item.name else none := by
    have words : r.words item.name = ws.map Text.lower := named ▸ r.words_line spoken
    rw [words, Scene.resolve?, Text.lower_intercalate, List.map_map, twice,
      ← Text.lower_intercalate, named, Scene.find?_of_player player, if_neg (by simp [proper]),
      Scene.referent?_eq, meaningless, nowhere, lowered.nearbyItem? (only.atHand known near)]
    by_cases answers : item.answersTo (Text.lower item.name) = true
    · simp [answers]
    · simp [answers]
  rw [found, ← Item.answersTo_lower_iff]
  by_cases answers : item.answersTo (Text.lower item.name) = true
  · simp [answers]
  · simp [answers]

end Reader

namespace PickleQuest

def inPantry : Reader :=
  ⟨⟨{ world with player := { player with location := "pantry" } }, game.vocabulary, true⟩, false⟩

theorem jar_is_found_by_its_name :
    inPantry.scene.world.nearby pickleJar.name = true ∧
      inPantry.scene.resolve? (inPantry.words pickleJar.name) = some pickleJar.name := by
  have known : pickleJar ∈ inPantry.scene.world.items ∧
      inPantry.scene.world.nearby pickleJar.name = true ∧
      (∀ w ∈ ["pickle", "jar"], inPantry.scene.vocabulary.Keeps w) ∧
      inPantry.scene.vocabulary.keyword? pickleJar.name = none ∧
      inPantry.scene.world.AnsweredOnlyBy pickleJar pickleJar.name ∧
      inPantry.scene.world.AnsweredOnlyBy pickleJar (Text.lower pickleJar.name) ∧
      Text.AsciiCapitals pickleJar.name := by
    decide +kernel
  obtain ⟨listed, near, spoken, free, only, lowered, ascii⟩ := known
  have found := inPantry.own_name_is_found_iff rfl listed near rfl (List.cons_ne_nil _ _) spoken
    free only lowered
  exact ⟨near, found.1.mpr (Or.inl ascii)⟩

/-- A sword with a capital letter beyond ASCII. -/
def sword : Item where
  name := "Épée"
  description := ["A blunt fencing sword."]
  lookLines := [("Épée", "There is a name on the blade.")]
  collectible := true

def withSword : Reader :=
  ⟨⟨{ world with items := items ++ [sword], player := { player with inventory := ["Épée"] } },
    game.vocabulary, true⟩, false⟩

/-- The player carries the sword and cannot refer to it. -/
theorem sword_is_not_found :
    sword ∈ withSword.scene.world.items ∧ withSword.scene.world.nearby "Épée" = true ∧
      withSword.scene.vocabulary.Keeps "Épée" ∧
      withSword.scene.vocabulary.keyword? "Épée" = none ∧
      withSword.scene.world.AnsweredOnlyBy sword "Épée" ∧
      withSword.scene.world.AnsweredOnlyBy sword (Text.lower "Épée") ∧
      withSword.words "Épée" = ["épée"] ∧
      withSword.scene.resolve? (withSword.words "Épée") = none := by
  decide +kernel

end PickleQuest

end TextAdventure
