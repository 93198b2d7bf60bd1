import TextAdventure.Proofs.Changes

/-!
# What becomes known

An item becomes known when it is taken, when it is made, and when something that is done lists it
among what it discovers.  Each of these marks the first item of a name, and nothing makes an item
unknown again, so what is known after a deed is told by the names that it finds.
-/

set_option autoImplicit false

namespace TextAdventure

theorem find?_updateFirst_other {α : Type} {p q : α → Bool} {change : α → α}
    (apart : ∀ a, p a = true → q a = false) (kept : ∀ a, q (change a) = q a) (l : List α) :
    (updateFirst p change l).find? q = l.find? q := by
  induction l with
  | nil => rfl
  | cons a rest ih =>
      by_cases found : p a = true
      · simp [updateFirst, found, kept, apart a found]
      · simp [updateFirst, found, List.find?_cons, ih]

/-- All names that a deed makes known, as it lists them or makes items of these names. -/
def Deed.finds (deed : Deed) : List String :=
  deed.interactions.flatMap (·.2.discovers) ++ deed.transforms.flatMap (·.result.toList)

@[simp]
theorem Deed.finds_single (item action : String) (i : Interaction) :
    (single item action i).finds = i.discovers ++ i.transforms.flatMap (·.result.toList) := by
  simp [finds, interactions, transforms]

@[simp]
theorem Deed.finds_paired (first second : String) (i j : Interaction) :
    (paired first second i j).finds =
      i.discovers ++ j.discovers ++ i.transforms.flatMap (·.result.toList) := by
  simp [finds, interactions, transforms]

namespace World

theorem record?_updateItem (w : World) (name other : String) {change : Item → Item}
    (named : ∀ item, (change item).name = item.name) :
    (w.updateItem name change).record? other =
      if other = name then (w.record? other).map change else w.record? other := by
  unfold record? updateItem
  split
  · rename_i same
    subst same
    apply find?_updateFirst
    intro item
    rw [named]
  · rename_i differs
    apply find?_updateFirst_other
    · intro item found
      rw [beq_iff_eq.mp found]
      exact beq_eq_false_iff_ne.mpr (Ne.symm differs)
    · intro item
      rw [named]

/-- Whether the item of a name can be carried, and whether it has been discovered. -/
def flags? (w : World) (name : String) : Option (Bool × Bool) :=
  (w.record? name).map fun item => (item.collectible, item.discovered)

/-- These names become known, and of these flags nothing else changes. -/
def Learns (names : List String) (before after : World) : Prop :=
  ∀ name, after.flags? name =
    (before.flags? name).map fun flags => (flags.1, flags.2 || names.contains name)

theorem learns_of_items {before after : World} (items : after.items = before.items) :
    Learns [] before after := by
  intro name
  simp [flags?, record?, items, Function.comp_def]

theorem Learns.trans {first second : List String} {before middle after : World}
    (early : Learns first before middle) (late : Learns second middle after) :
    Learns (first ++ second) before after := by
  intro name
  rw [late name, early name, Option.map_map]
  apply congrArg (Option.map · (before.flags? name))
  funext flags
  simp [Bool.or_assoc]

theorem Learns.with_items {names : List String} {before middle after : World}
    (learns : Learns names before middle) (items : after.items = middle.items) :
    Learns names before after := by
  intro name
  rw [← learns name, flags?, flags?, record?, record?, items]

/-- A change that keeps both flags makes nothing known. -/
theorem learns_updateItem {change : Item → Item}
    (named : ∀ item, (change item).name = item.name)
    (kept : ∀ item, (change item).collectible = item.collectible ∧
      (change item).discovered = item.discovered) (w : World) (name : String) :
    Learns [] w (w.updateItem name change) := by
  intro other
  unfold flags?
  rw [w.record?_updateItem name other named]
  split
  · simp [Function.comp_def, kept]
  · simp [Function.comp_def]

theorem learns_discover (w : World) (name : String) :
    Learns [name] w (w.updateItem name fun item => { item with discovered := true }) := by
  have named : ∀ item : Item, { item with discovered := true }.name = item.name := fun _ => rfl
  intro other
  unfold flags?
  rw [w.record?_updateItem name other named]
  split
  · rename_i same
    simp [same, Function.comp_def]
  · rename_i differs
    simp [differs, Function.comp_def]

theorem learns_updateItems {change : Item → Item} {made : String → List String}
    (each : ∀ w name, Learns (made name) w (updateItem w name change)) (w : World)
    (names : List String) : Learns (names.flatMap made) w (w.updateItems names change) := by
  induction names generalizing w with
  | nil => exact learns_of_items rfl
  | cons name rest ih => exact (each w name).trans (ih (w.updateItem name change))

theorem learns_reveal (w : World) (i : Interaction) : Learns i.discovers w (w.reveal i) := by
  have unhides : ∀ w name,
      Learns [] w (updateItem w name fun item => { item with hidden := false }) :=
    learns_updateItem (fun _ => rfl) fun _ => ⟨rfl, rfl⟩
  have unlocks : ∀ w name,
      Learns [] w (updateItem w name fun item => { item with locked := false }) :=
    learns_updateItem (fun _ => rfl) fun _ => ⟨rfl, rfl⟩
  have listed : i.discovers = i.unhides.flatMap (fun _ => []) ++
      (i.unlocks.flatMap (fun _ => []) ++ i.discovers.flatMap fun name => [name]) := by
    have nothing : ∀ names : List String, names.flatMap (fun _ => ([] : List String)) = [] :=
      fun names => List.flatMap_eq_nil_iff.mpr fun _ _ => rfl
    simp [nothing]
  rw [listed]
  exact (learns_updateItems unhides w i.unhides).trans
    ((learns_updateItems unlocks _ i.unlocks).trans
      (learns_updateItems learns_discover _ i.discovers))

theorem learns_applyEffects (w : World) (name action : String) (i : Interaction) :
    Learns [] w (w.applyEffects name action i) := by
  unfold applyEffects
  cases i.newDescription with
  | none => exact learns_of_items rfl
  | some fragments =>
      have described : ∀ w name,
          Learns [] w (updateItem w name fun item => { item with description := fragments }) :=
        learns_updateItem (fun _ => rfl) fun _ => ⟨rfl, rfl⟩
      exact (described w name).with_items rfl

theorem learns_produce (w : World) (name : String) : Learns [name] w (w.produce name) := by
  have taken : Learns [] w ((w.removeNearby name).updatePlayer (·.take name)) :=
    learns_of_items rfl
  exact taken.trans (learns_discover _ name)

theorem learns_applyTransform (w : World) (t : Transform) :
    Learns t.result.toList w (w.applyTransform t) := by
  obtain ⟨source, result⟩ := t
  cases source with
  | none =>
      cases result with
      | none => exact learns_of_items rfl
      | some made => exact w.learns_produce made
  | some used =>
      have consumed : Learns [] w (w.consume used) := learns_of_items rfl
      cases result with
      | none => exact consumed
      | some made => exact consumed.trans (learns_produce _ made)

theorem learns_applyTransforms (w : World) (ts : List Transform) :
    Learns (ts.flatMap (·.result.toList)) w (w.applyTransforms ts) := by
  induction ts generalizing w with
  | nil => exact learns_of_items rfl
  | cons t rest ih => exact (w.learns_applyTransform t).trans (ih (w.applyTransform t))

/-- Exactly the names that a deed finds become known. -/
theorem learns_carryOutDeed (w : World) (deed : Deed) :
    Learns deed.finds w (w.carryOutDeed deed).state := by
  cases deed with
  | single item action i =>
      have told := w.learns_applyEffects item action i
      have shown : Learns i.discovers w _ := told.trans (learns_reveal _ i)
      have made := shown.trans (learns_applyTransforms _ i.transforms)
      rw [Deed.finds_single]
      exact made.with_items rfl
  | paired first second i j =>
      have told : Learns [] w _ := (w.learns_applyEffects first pairedUse i).trans
        (learns_applyEffects _ second pairedUse j)
      have shown : Learns (i.discovers ++ j.discovers) w _ :=
        (told.trans (learns_reveal _ i)).trans (learns_reveal _ j)
      have made := shown.trans (learns_applyTransforms _ i.transforms)
      rw [Deed.finds_paired]
      exact made.with_items rfl

theorem learns_pickUp (w : World) (name : String) : Learns [name] w (w.pickUp name) := by
  have moved : Learns [] w (w.carry name) := learns_of_items rfl
  have known : Learns [name] w _ := moved.trans (learns_discover _ name)
  exact known.with_items rfl

/-! ## Known items -/

/-- The item of a name can be carried, and has been discovered. -/
def IsKnown (w : World) (name : String) : Prop := w.flags? name = some (true, true)

instance (w : World) (name : String) : Decidable (w.IsKnown name) :=
  inferInstanceAs (Decidable (_ = _))

theorem isKnown_iff {w : World} {name : String} :
    w.IsKnown name ↔
      ∃ item, w.record? name = some item ∧ item.collectible = true ∧ item.discovered = true := by
  simp [IsKnown, flags?]

theorem Learns.isKnown_iff {names : List String} {before after : World}
    (learns : Learns names before after) (name : String) :
    after.IsKnown name ↔
      before.IsKnown name ∨ before.flags? name = some (true, false) ∧ name ∈ names := by
  rw [IsKnown, IsKnown, learns name]
  rcases before.flags? name with _ | ⟨collectible, discovered⟩
  · simp
  · cases discovered with
    | false => simp
    | true => simp

end World

end TextAdventure
