import TextAdventure.PickleQuest
import TextAdventure.Turn.Carrying

/-!
# Looking an item up again

What the player refers to is searched among the items at hand; the command then looks for the name
that was found among all items, in the order in which they are listed.  The second search finds the
same item unless one that is listed before it has its name for an alias, wherever that one is.
-/

set_option autoImplicit false

namespace TextAdventure

/-- A search that an element satisfies ends there, or earlier. -/
theorem find?_eq_before_or {α : Type} [DecidableEq α] {p : α → Bool} {a : α} {l : List α}
    (member : a ∈ l) (found : p a = true) :
    l.find? p = ((l.takeWhile (· != a)).find? p).or (some a) := by
  induction l with
  | nil => exact absurd member List.not_mem_nil
  | cons b rest ih =>
      by_cases same : b = a
      · subst same
        simp [found]
      · have later := ih ((List.mem_cons.mp member).resolve_left (Ne.symm same))
        by_cases first : p b = true
        · simp [same, first]
        · simp [same, first, later]

/-- A search that one element alone satisfies finds it. -/
theorem find?_of_only {α : Type} {p : α → Bool} {a : α} {l : List α} (member : a ∈ l)
    (found : p a = true) (only : ∀ b ∈ l, p b = true → b = a) : l.find? p = some a := by
  have some_found : (l.find? p).isSome = true := List.find?_isSome.mpr ⟨a, member, found⟩
  obtain ⟨b, first⟩ := Option.isSome_iff_exists.mp some_found
  rw [first, only b (List.mem_of_find?_eq_some first) (List.find?_some first)]

theorem ne_of_mem_before {α : Type} [DecidableEq α] {a b : α} {l : List α}
    (earlier : b ∈ l.takeWhile (· != a)) : b ≠ a :=
  bne_iff_ne.mp (List.all_eq_true.mp List.all_takeWhile b earlier)

/-- What relates the elements of a list pairwise relates each one to all that stand before it. -/
theorem rel_of_mem_before {α : Type} [DecidableEq α] {R : α → α → Prop} {a b : α} {l : List α}
    (pairwise : l.Pairwise R) (member : a ∈ l) (earlier : b ∈ l.takeWhile (· != a)) : R b a := by
  have split : l.takeWhile (· != a) ++ l.dropWhile (· != a) = l := List.takeWhile_append_dropWhile
  rw [← split, List.mem_append] at member
  have later := member.resolve_left fun early => ne_of_mem_before early rfl
  rw [← split] at pairwise
  exact (List.pairwise_append.mp pairwise).2.2 b earlier a later

@[simp]
theorem Text.sameName_refl (name : String) : Text.sameName name name = true := beq_self_eq_true _

namespace Item

theorem answersTo_own (item : Item) : item.answersTo item.name = true := by
  rw [answersTo, Text.sameName_refl, Bool.true_or]

/-- Whether a name is one of the item's aliases, ASCII case aside. -/
def HasAlias (item : Item) (name : String) : Prop :=
  ∃ other ∈ item.aliases, Text.sameName other name = true

instance (item : Item) (name : String) : Decidable (item.HasAlias name) :=
  inferInstanceAs (Decidable (∃ other ∈ item.aliases, Text.sameName other name = true))

theorem answersTo_iff_hasAlias {item : Item} {name : String}
    (named : Text.sameName item.name name = false) :
    item.answersTo name = true ↔ item.HasAlias name := by
  rw [answersTo, named, Bool.false_or, List.any_eq_true]
  exact Iff.rfl

end Item

namespace World

/-- No two items have the same name, ASCII case aside. -/
def DistinctItems (w : World) : Prop :=
  w.items.Pairwise fun item other => Text.sameName item.name other.name = false

instance (w : World) : Decidable w.DistinctItems := inferInstanceAs (Decidable (List.Pairwise _ _))

/-- The items that are listed before one. -/
def itemsBefore (w : World) (item : Item) : List Item :=
  w.items.takeWhile (· != item)

theorem mem_of_heldItem? {w : World} {held : List String} {phrase : String} {item : Item}
    (found : w.heldItem? held phrase = some item) : item ∈ w.items ∧ item.name ∈ held := by
  obtain ⟨name, listed, record⟩ := List.mem_filterMap.mp (List.mem_of_find?_eq_some found)
  have named : item.name = name := record?_name record
  exact ⟨List.mem_of_find?_eq_some record, named ▸ listed⟩

theorem mem_of_nearbyItem? {w : World} {phrase : String} {item : Item}
    (found : w.nearbyItem? phrase = some item) : item ∈ w.items := by
  rw [nearbyItem?, Option.or_eq_some_iff] at found
  rcases found with carried | ⟨_, lying⟩
  · exact (mem_of_heldItem? carried).1
  · exact (mem_of_heldItem? lying).1

theorem atHand_of_nearbyItem? {w : World} {phrase : String} {item : Item}
    (found : w.nearbyItem? phrase = some item) :
    item.name ∈ w.player.inventory ∨ item.name ∈ w.lyingHere := by
  rw [nearbyItem?, Option.or_eq_some_iff] at found
  rcases found with carried | ⟨_, lying⟩
  · exact Or.inl (mem_of_heldItem? carried).2
  · exact Or.inr (mem_of_heldItem? lying).2

theorem item?_own {w : World} {item : Item} (member : item ∈ w.items) :
    w.item? item.name =
      ((w.itemsBefore item).find? (·.answersTo item.name)).or (some item) :=
  find?_eq_before_or member item.answersTo_own

/-- Before an item of a list there is none of its name. -/
theorem DistinctItems.apart {w : World} (distinct : w.DistinctItems) {item other : Item}
    (member : item ∈ w.items) (earlier : other ∈ w.itemsBefore item) :
    Text.sameName other.name item.name = false := by
  unfold DistinctItems at distinct
  have related := rel_of_mem_before distinct member earlier
  exact related

/-- Where no two items have the same name, an item at hand is found again by its name exactly if no
item listed before it has that name for an alias; and if another item is found instead, then it is
one of these. -/
theorem found_again_iff (w : World) (distinct : w.DistinctItems) {phrase : String} {item : Item}
    (found : w.nearbyItem? phrase = some item) :
    (w.item? item.name = some item ↔
      ∀ other ∈ w.itemsBefore item, ¬ other.HasAlias item.name) ∧
    ∃ named, w.item? item.name = some named ∧
      (named = item ∨ named ∈ w.itemsBefore item ∧ named.HasAlias item.name) := by
  have member := mem_of_nearbyItem? found
  have answering : ∀ other ∈ w.itemsBefore item,
      other.answersTo item.name = true ↔ other.HasAlias item.name := by
    intro other earlier
    exact Item.answersTo_iff_hasAlias (distinct.apart member earlier)
  cases early : (w.itemsBefore item).find? (·.answersTo item.name) with
  | none =>
      have again : w.item? item.name = some item := by rw [item?_own member, early, Option.none_or]
      have free : ∀ other ∈ w.itemsBefore item, ¬ other.HasAlias item.name := by
        intro other earlier
        rw [← answering other earlier]
        exact List.find?_eq_none.mp early other earlier
      exact ⟨iff_of_true again free, item, again, Or.inl rfl⟩
  | some named =>
      have instead : w.item? item.name = some named := by
        rw [item?_own member, early, Option.some_or]
      have earlier : named ∈ w.itemsBefore item := List.mem_of_find?_eq_some early
      have answers := List.find?_some early
      have captures : named.HasAlias item.name := (answering named earlier).mp answers
      refine ⟨iff_of_false ?_ ?_, named, instead, Or.inr ⟨earlier, captures⟩⟩
      · intro again
        exact ne_of_mem_before earlier (Option.some.inj (instead.symm.trans again))
      · intro free
        exact free named earlier captures

end World

namespace PickleQuest

def kitchenWorld : World := { world with player := { player with location := "kitchen" } }

theorem fork_is_found_again :
    kitchenWorld.DistinctItems ∧ kitchenWorld.nearbyItem? "utensil" = some fork ∧
      kitchenWorld.item? fork.name = some fork := by
  have known : kitchenWorld.DistinctItems ∧ kitchenWorld.nearbyItem? "utensil" = some fork ∧
      ∀ other ∈ kitchenWorld.itemsBefore fork, ¬ other.HasAlias fork.name := by
    decide +kernel
  obtain ⟨distinct, found, free⟩ := known
  exact ⟨distinct, found, (kitchenWorld.found_again_iff distinct found).1.mpr free⟩

/-- The jar is also called by what is in it; the pickle is carried, and the jar is in the pantry. -/
def pickleInHand : World :=
  { world with
    items := items.map fun item =>
      if item.name = "pickle jar" then { item with aliases := "pickle" :: item.aliases } else item
    player := { player with inventory := ["pickle"] } }

/-- The carried pickle is what the player refers to, and the jar in the pantry is what is found. -/
theorem pickle_is_taken_for_the_jar :
    pickleInHand.DistinctItems ∧ pickleInHand.nearbyItem? "pickle" = some pickle ∧
      (pickleInHand.item? pickle.name).map (·.name) = some "pickle jar" ∧
      pickleInHand.nearby "pickle jar" = false ∧
      pickleInHand.item? pickle.name ≠ some pickle ∧
      (pickleInHand.inspect (some pickle.name)).status = .failure := by
  decide +kernel

end PickleQuest

end TextAdventure
