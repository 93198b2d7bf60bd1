/-!
# Changing the first match in a list

Records are addressed by name, and where a name occurs twice the first record answers.
-/

set_option autoImplicit false

namespace TextAdventure

variable {α : Type}

/-- The list with `change` applied to the first element that satisfies `p`. -/
def updateFirst (p : α → Bool) (change : α → α) : List α → List α
  | [] => []
  | a :: rest => if p a then change a :: rest else a :: updateFirst p change rest

@[simp]
theorem length_updateFirst (p : α → Bool) (change : α → α) (l : List α) :
    (updateFirst p change l).length = l.length := by
  induction l with
  | nil => rfl
  | cons a rest ih => by_cases h : p a <;> simp [updateFirst, h, ih]

/-- A view that the change does not show in is the same after the update. -/
theorem map_updateFirst {β : Type} (view : α → β) {p : α → Bool} {change : α → α}
    (h : ∀ a, view (change a) = view a) (l : List α) :
    (updateFirst p change l).map view = l.map view := by
  induction l with
  | nil => rfl
  | cons a rest ih => by_cases found : p a <;> simp [updateFirst, found, h, ih]

theorem updateFirst_of_none {p : α → Bool} {change : α → α} {l : List α} (h : l.find? p = none) :
    updateFirst p change l = l := by
  induction l with
  | nil => rfl
  | cons a rest ih =>
      rw [List.find?_cons] at h
      split at h
      · contradiction
      · rename_i skipped
        simp [updateFirst, skipped, ih h]

theorem find?_updateFirst {p : α → Bool} {change : α → α} (h : ∀ a, p (change a) = p a)
    (l : List α) : (updateFirst p change l).find? p = (l.find? p).map change := by
  induction l with
  | nil => rfl
  | cons a rest ih => by_cases found : p a <;> simp [updateFirst, found, h, ih]

/-- Without the first match the list is as before. -/
theorem eraseP_updateFirst {p : α → Bool} {change : α → α} (h : ∀ a, p (change a) = p a)
    (l : List α) : (updateFirst p change l).eraseP p = l.eraseP p := by
  induction l with
  | nil => rfl
  | cons a rest ih => by_cases found : p a <;> simp [updateFirst, found, h, ih]

/-- Only what the change makes of the first match counts. -/
theorem updateFirst_congr {p : α → Bool} {change other : α → α} {l : List α}
    (same : ∀ a, l.find? p = some a → change a = other a) :
    updateFirst p change l = updateFirst p other l := by
  induction l with
  | nil => rfl
  | cons a rest ih =>
      by_cases found : p a
      · have first := same a (by simp [found])
        simp [updateFirst, found, first]
      · have later := ih (by simpa [found] using same)
        simp [updateFirst, found, later]

theorem updateFirst_updateFirst {p : α → Bool} {change : α → α} (h : ∀ a, p (change a) = p a)
    (other : α → α) (l : List α) :
    updateFirst p other (updateFirst p change l) = updateFirst p (other ∘ change) l := by
  induction l with
  | nil => rfl
  | cons a rest ih => by_cases found : p a <;> simp [updateFirst, found, h, ih]

theorem updateFirst_id (p : α → Bool) (l : List α) : updateFirst p id l = l := by
  induction l with
  | nil => rfl
  | cons a rest ih => by_cases found : p a <;> simp [updateFirst, found, ih]

end TextAdventure
