import TextAdventure.Proofs.Discovery
import TextAdventure.Proofs.Holdings
import TextAdventure.Proofs.Markers

/-!
# All effects of a deed at once

A revision gathers what is done to the records of items, to what is at hand and to the markers of
objectives.  Two revisions, one after the other, are one; and every step of a deed is one, so the
world after a deed is told without the order in which its steps were taken.
-/

set_option autoImplicit false

namespace TextAdventure

open Transform

section Lists

variable {α κ : Type} [DecidableEq κ]

/-- The list with `change` applied to the first element of each key that has not been seen. -/
def updateFirsts (key : α → κ) (change : α → α) (seen : List κ) : List α → List α
  | [] => []
  | a :: rest =>
      (if key a ∈ seen then a else change a) :: updateFirsts key change (key a :: seen) rest

variable {key : α → κ} {change : α → α}

theorem updateFirsts_eq_self {seen : List κ} (still : ∀ a, key a ∉ seen → change a = a)
    (l : List α) : updateFirsts key change seen l = l := by
  induction l generalizing seen with
  | nil => rfl
  | cons a rest ih =>
      have later : ∀ b, key b ∉ key a :: seen → change b = b :=
        fun b fresh => still b (mt (List.mem_cons_of_mem _) fresh)
      rw [updateFirsts, ih later]
      split
      · rfl
      · rename_i fresh
        rw [still a fresh]

theorem updateFirsts_id (seen : List κ) (l : List α) : updateFirsts key id seen l = l :=
  updateFirsts_eq_self (fun _ _ => rfl) l

/-- Changing the first element of one key is changing that of each key, all others to themselves. -/
theorem updateFirst_eq_updateFirsts {k : κ} {seen : List κ} (fresh : k ∉ seen) (l : List α) :
    updateFirst (key · == k) change l =
      updateFirsts key (fun a => if key a = k then change a else a) seen l := by
  induction l generalizing seen with
  | nil => rfl
  | cons a rest ih =>
      by_cases found : key a = k
      · subst found
        have others : ∀ b, key b ∉ key a :: seen →
            (if key b = key a then change b else b) = b := by
          intro b unseen
          exact if_neg (List.ne_of_not_mem_cons unseen)
        simp [updateFirst, updateFirsts, fresh, updateFirsts_eq_self others]
      · have unseen : k ∉ key a :: seen := by simp [fresh, Ne.symm found]
        simp [updateFirst, updateFirsts, found, ih unseen]

theorem updateFirsts_updateFirsts (kept : ∀ a, key (change a) = key a) (other : α → α)
    (seen : List κ) (l : List α) :
    updateFirsts key other seen (updateFirsts key change seen l) =
      updateFirsts key (other ∘ change) seen l := by
  induction l generalizing seen with
  | nil => rfl
  | cons a rest ih =>
      by_cases before : key a ∈ seen
      · simp [updateFirsts, before, ih]
      · simp [updateFirsts, before, kept, ih]

theorem find?_updateFirsts (kept : ∀ a, key (change a) = key a) {k : κ} {seen : List κ}
    (fresh : k ∉ seen) (l : List α) :
    (updateFirsts key change seen l).find? (key · == k) =
      (l.find? (key · == k)).map change := by
  induction l generalizing seen with
  | nil => rfl
  | cons a rest ih =>
      by_cases found : key a = k
      · subst found
        simp [updateFirsts, fresh, kept]
      · have unseen : k ∉ key a :: seen := by simp [fresh, Ne.symm found]
        have head : key (if key a ∈ seen then a else change a) ≠ k := by
          split
          · exact found
          · rwa [kept]
        rw [updateFirsts, List.find?_cons_of_neg (by simpa using head),
          List.find?_cons_of_neg (by simpa using found), ih unseen]

end Lists

/-! ## Revisions -/

/-- What is done to a world: descriptions, flags and markers that are set, names that are taken out
of everything at hand, and names that the player carries in the end. -/
structure Revision where
  descriptions : String → Option (List String) := fun _ => none
  unhidden : List String := []
  unlocked : List String := []
  discovered : List String := []
  gone : List String := []
  made : List String := []
  performed : Performance := []

namespace Room

def without (names : List String) (room : Room) : Room :=
  { room with inventory := withoutNames names room.inventory }

theorem without_nil : without [] = id := by
  funext room
  simp [without, withoutNames_nil]

theorem remove_eq_without (name : String) :
    (fun room : Room => room.remove name) = without [name] := by
  funext room
  rw [remove, without, removeName_eq]

end Room

namespace Objective

def earn (done : Performance) (objective : Objective) : Objective :=
  { objective with markers := objective.markers.map (Marker.earn done) }

theorem earn_nil : earn [] = id := by
  funext objective
  rw [earn, Marker.earn_nil, List.map_id, id]

theorem earn_earn (first second : Performance) (objective : Objective) :
    (objective.earn first).earn second = objective.earn (first ++ second) := by
  simp [earn, Function.comp_def, Marker.earn_earn]

theorem record_eq_earn (item action : String) : record item action = earn [(item, action)] := by
  funext objective
  rw [record, Marker.record_eq_earn, earn]

end Objective

namespace Revision

def revise (r : Revision) (item : Item) : Item :=
  { item with
    description := (r.descriptions item.name).getD item.description
    discovered := item.discovered || r.discovered.contains item.name
    locked := item.locked && !r.unlocked.contains item.name
    hidden := item.hidden && !r.unhidden.contains item.name }

/-- The world, revised; where several records have one name, the first is that item's. -/
def apply (r : Revision) (w : World) : World :=
  { w with
    rooms := updateFirst (·.name == w.player.location) (Room.without r.gone) w.rooms
    items := updateFirsts Item.name r.revise [] w.items
    objectives := w.objectives.map (Objective.earn r.performed)
    player := { w.player with inventory := withoutNames r.gone w.player.inventory ++ r.made } }

def followedBy (first second : Revision) : Revision where
  descriptions name := (second.descriptions name).or (first.descriptions name)
  unhidden := first.unhidden ++ second.unhidden
  unlocked := first.unlocked ++ second.unlocked
  discovered := first.discovered ++ second.discovered
  gone := first.gone ++ second.gone
  made := withoutNames second.gone first.made ++ second.made
  performed := first.performed ++ second.performed

theorem revise_followedBy (first second : Revision) :
    (first.followedBy second).revise = second.revise ∘ first.revise := by
  funext item
  cases described : second.descriptions item.name <;>
    simp [revise, followedBy, described, Bool.or_assoc, Bool.and_assoc]

/-- One revision after another is both together. -/
theorem apply_followedBy (first second : Revision) (w : World) :
    (first.followedBy second).apply w = second.apply (first.apply w) := by
  have emptied : Room.without (first.gone ++ second.gone) =
      Room.without second.gone ∘ Room.without first.gone := by
    funext room
    simp [Room.without, withoutNames_withoutNames]
  have rooms : updateFirst (·.name == w.player.location) (Room.without second.gone)
      (updateFirst (·.name == w.player.location) (Room.without first.gone) w.rooms) =
        updateFirst (·.name == w.player.location)
          (Room.without second.gone ∘ Room.without first.gone) w.rooms := by
    apply updateFirst_updateFirst
    intro room
    rfl
  have items : updateFirsts Item.name second.revise []
      (updateFirsts Item.name first.revise [] w.items) =
        updateFirsts Item.name (second.revise ∘ first.revise) [] w.items := by
    apply updateFirsts_updateFirsts
    intro item
    rfl
  have objectives : Objective.earn (first.performed ++ second.performed) =
      Objective.earn second.performed ∘ Objective.earn first.performed := by
    funext objective
    exact (objective.earn_earn _ _).symm
  simp only [apply, rooms, items, revise_followedBy]
  simp only [followedBy, emptied, objectives, List.map_map, withoutNames_append,
    withoutNames_withoutNames, List.append_assoc]

theorem record?_apply (r : Revision) (w : World) (name : String) :
    (r.apply w).record? name = (w.record? name).map r.revise := by
  refine find?_updateFirsts ?_ List.not_mem_nil w.items
  intro item
  rfl

/-- Two revisions that do the same, maybe in another order. -/
structure Alike (r s : Revision) : Prop where
  descriptions : ∀ name, r.descriptions name = s.descriptions name
  unhidden : ∀ name, name ∈ r.unhidden ↔ name ∈ s.unhidden
  unlocked : ∀ name, name ∈ r.unlocked ↔ name ∈ s.unlocked
  discovered : ∀ name, name ∈ r.discovered ↔ name ∈ s.discovered
  gone : ∀ name, name ∈ r.gone ↔ name ∈ s.gone
  made : r.made = s.made
  performed : ∀ done, done ∈ r.performed ↔ done ∈ s.performed

theorem Alike.apply_eq {r s : Revision} (alike : r.Alike s) (w : World) :
    r.apply w = s.apply w := by
  have revise : r.revise = s.revise := by
    funext item
    simp [revise, List.contains_eq_mem, alike.descriptions, alike.unhidden, alike.unlocked,
      alike.discovered]
  have without : withoutNames r.gone = withoutNames s.gone := by
    funext held
    simp [withoutNames, List.contains_eq_mem, alike.gone]
  have emptied : Room.without r.gone = Room.without s.gone := by
    funext room
    rw [Room.without, Room.without, without]
  have earn : Objective.earn r.performed = Objective.earn s.performed := by
    have marker : Marker.earn r.performed = Marker.earn s.performed := by
      funext marker
      simp [Marker.earn, alike.performed]
    funext objective
    rw [Objective.earn, Objective.earn, marker]
  simp only [apply, revise, emptied, without, alike.made, earn]

/-! ## Revisions of one kind -/

theorem revise_of_unrecorded (gone made : List String) (performed : Performance) :
    ({ gone, made, performed } : Revision).revise = id := by
  funext item
  simp [revise]

theorem apply_of_records {r : Revision} (records : r.gone = [] ∧ r.made = [] ∧ r.performed = [])
    (w : World) : r.apply w = { w with items := updateFirsts Item.name r.revise [] w.items } := by
  obtain ⟨gone, made, performed⟩ := records
  simp only [apply, gone, made, performed, Room.without_nil, updateFirst_id, Objective.earn_nil,
    List.map_id, withoutNames_nil, List.append_nil]

theorem apply_of_hands (gone made : List String) (w : World) :
    ({ gone, made } : Revision).apply w =
      { w with
        rooms := updateFirst (·.name == w.player.location) (Room.without gone) w.rooms
        player :=
          { w.player with inventory := withoutNames gone w.player.inventory ++ made } } := by
  simp only [apply, revise_of_unrecorded, updateFirsts_id, Objective.earn_nil, List.map_id]

theorem apply_of_markers (performed : Performance) (w : World) :
    ({ performed } : Revision).apply w =
      { w with objectives := w.objectives.map (Objective.earn performed) } := by
  simp only [apply, revise_of_unrecorded, updateFirsts_id, Room.without_nil, updateFirst_id,
    withoutNames_nil, List.append_nil]

theorem apply_nothing (w : World) : ({} : Revision).apply w = w := by
  rw [apply_of_markers, Objective.earn_nil, List.map_id]

end Revision

/-! ## The steps of a deed -/

/-- What the first of some transforms makes stays made if the others do not mention it. -/
theorem Transform.madeBy_cons (t : Transform) (ts : List Transform) :
    madeBy (t :: ts) = withoutNames (ts.flatMap mentions) t.result.toList ++ madeBy ts := by
  have first := foldl_carriedAfter ts t.result.toList []
  rw [List.append_nil] at first
  exact first

namespace World

theorem updateItem_eq_apply {r : Revision} {name : String} {change : Item → Item}
    (records : r.gone = [] ∧ r.made = [] ∧ r.performed = [])
    (only : ∀ item : Item, (if item.name = name then change item else item) = r.revise item)
    (w : World) : w.updateItem name change = r.apply w := by
  rw [Revision.apply_of_records records, updateItem,
    updateFirst_eq_updateFirsts List.not_mem_nil]
  simp only [only]

/-- A change of many records, each of which adds its name to one list of a revision. -/
theorem updateItems_eq_apply {change : Item → Item} {r : List String → Revision}
    (nothing : r [] = {})
    (further : ∀ name rest, r (name :: rest) = (r [name]).followedBy (r rest))
    (each : ∀ (w : World) name, w.updateItem name change = (r [name]).apply w) (w : World)
    (names : List String) : w.updateItems names change = (r names).apply w := by
  induction names generalizing w with
  | nil => rw [nothing, Revision.apply_nothing, updateItems, List.foldl_nil]
  | cons name rest ih => rw [further, Revision.apply_followedBy, ← each, ← ih, updateItems,
      List.foldl_cons, updateItems]

theorem describe_eq_apply (w : World) (name : String) (fragments : List String) :
    w.updateItem name (fun item => { item with description := fragments }) =
      ({ descriptions := fun other => if other = name then some fragments else none } :
        Revision).apply w := by
  apply updateItem_eq_apply ⟨rfl, rfl, rfl⟩
  intro item
  split <;> simp_all [Revision.revise]

theorem unhide_eq_apply (w : World) (name : String) :
    w.updateItem name (fun item => { item with hidden := false }) =
      ({ unhidden := [name] } : Revision).apply w := by
  apply updateItem_eq_apply ⟨rfl, rfl, rfl⟩
  intro item
  split <;> simp_all [Revision.revise]

theorem unlock_eq_apply (w : World) (name : String) :
    w.updateItem name (fun item => { item with locked := false }) =
      ({ unlocked := [name] } : Revision).apply w := by
  apply updateItem_eq_apply ⟨rfl, rfl, rfl⟩
  intro item
  split <;> simp_all [Revision.revise]

theorem discover_eq_apply (w : World) (name : String) :
    w.updateItem name (fun item => { item with discovered := true }) =
      ({ discovered := [name] } : Revision).apply w := by
  apply updateItem_eq_apply ⟨rfl, rfl, rfl⟩
  intro item
  split <;> simp_all [Revision.revise]

theorem reveal_eq_apply (w : World) (i : Interaction) :
    w.reveal i =
      ({ unhidden := i.unhides, unlocked := i.unlocks, discovered := i.discovers } :
        Revision).apply w := by
  have unhides := updateItems_eq_apply (r := fun names => { unhidden := names }) rfl
    (fun _ _ => rfl) unhide_eq_apply
  have unlocks := updateItems_eq_apply (r := fun names => { unlocked := names }) rfl
    (fun _ _ => rfl) unlock_eq_apply
  have discovers := updateItems_eq_apply (r := fun names => { discovered := names }) rfl
    (fun _ _ => rfl) discover_eq_apply
  rw [reveal, unhides, unlocks, discovers, ← Revision.apply_followedBy, ← Revision.apply_followedBy]
  simp [Revision.followedBy, withoutNames]

theorem applyEffects_eq_apply (w : World) (name action : String) (i : Interaction) :
    w.applyEffects name action i =
      ({ descriptions := fun other => if other = name then i.newDescription else none
         performed := [(name, action)] } : Revision).apply w := by
  unfold applyEffects
  rw [Objective.record_eq_earn]
  cases i.newDescription with
  | none =>
      dsimp only
      rw [← Revision.apply_of_markers]
      simp
  | some fragments =>
      dsimp only
      rw [← Revision.apply_of_markers, describe_eq_apply, ← Revision.apply_followedBy]
      simp [Revision.followedBy, withoutNames]

theorem removeNearby_eq_apply (w : World) (name : String) :
    w.removeNearby name = ({ gone := [name] } : Revision).apply w := by
  rw [Revision.apply_of_hands, removeNearby, updateRoom, Room.remove_eq_without]
  simp [updatePlayer, Player.remove, removeName_eq]

theorem produce_eq_apply (w : World) (name : String) :
    w.produce name =
      ({ discovered := [name], gone := [name], made := [name] } : Revision).apply w := by
  have carried : (w.removeNearby name).updatePlayer (·.take name) =
      ({ gone := [name], made := [name] } : Revision).apply w := by
    have free : name ∉ withoutNames [name] w.player.inventory := by simp [withoutNames]
    rw [removeNearby_eq_apply, Revision.apply_of_hands, Revision.apply_of_hands]
    simp [updatePlayer, Player.take, addName, free]
  rw [produce, carried, discover_eq_apply, ← Revision.apply_followedBy]
  simp [Revision.followedBy, withoutNames]

theorem applyTransform_eq_apply (w : World) (t : Transform) :
    w.applyTransform t =
      ({ discovered := t.result.toList, gone := t.mentions, made := t.result.toList } :
        Revision).apply w := by
  obtain ⟨source, result⟩ := t
  cases source with
  | none =>
      cases result with
      | none => exact (Revision.apply_nothing w).symm
      | some made => exact w.produce_eq_apply made
  | some used =>
      cases result with
      | none => exact w.removeNearby_eq_apply used
      | some made =>
          have both :
              w.applyTransform ⟨some used, some made⟩ = (w.removeNearby used).produce made := rfl
          rw [both, removeNearby_eq_apply, produce_eq_apply, ← Revision.apply_followedBy]
          simp [Revision.followedBy, mentions, withoutNames]

theorem applyTransforms_eq_apply (w : World) (ts : List Transform) :
    w.applyTransforms ts =
      ({ discovered := ts.flatMap (·.result.toList), gone := ts.flatMap mentions
         made := madeBy ts } : Revision).apply w := by
  induction ts generalizing w with
  | nil => exact (Revision.apply_nothing w).symm
  | cons t rest ih =>
      have next : w.applyTransforms (t :: rest) = (w.applyTransform t).applyTransforms rest := rfl
      rw [next, ih, applyTransform_eq_apply, ← Revision.apply_followedBy]
      simp [Revision.followedBy, madeBy_cons]

end World

/-! ## The whole deed -/

namespace Deed

/-- The description that a deed gives to a name; of a pair the second item's counts. -/
def description? (name : String) : Deed → Option (List String)
  | single item _ i => if name = item then i.newDescription else none
  | paired first second i j =>
      (if name = second then j.newDescription else none).or
        (if name = first then i.newDescription else none)

/-- All that a deed does to a world, but that there is something to save. -/
def revision (deed : Deed) : Revision where
  descriptions name := deed.description? name
  unhidden := deed.interactions.flatMap (·.2.unhides)
  unlocked := deed.interactions.flatMap (·.2.unlocks)
  discovered := deed.finds
  gone := deed.transforms.flatMap mentions
  made := madeBy deed.transforms
  performed := deed.performance

end Deed

namespace World

theorem carryOutDeed_state (w : World) (deed : Deed) :
    (w.carryOutDeed deed).state = (deed.revision.apply w).touch := by
  cases deed with
  | single item action i =>
      have steps : (w.carryOutDeed (.single item action i)).state =
          (((w.applyEffects item action i).reveal i).applyTransforms i.transforms).touch := rfl
      rw [steps, applyEffects_eq_apply, reveal_eq_apply, applyTransforms_eq_apply,
        ← Revision.apply_followedBy, ← Revision.apply_followedBy]
      simp [Revision.followedBy, Deed.revision, Deed.description?, Deed.interactions,
        Deed.transforms, Deed.performance, withoutNames]
  | paired first second i j =>
      have steps : (w.carryOutDeed (.paired first second i j)).state =
          (((((w.applyEffects first pairedUse i).applyEffects second pairedUse j).reveal i).reveal
            j).applyTransforms i.transforms).touch := rfl
      rw [steps, applyEffects_eq_apply, applyEffects_eq_apply, reveal_eq_apply, reveal_eq_apply,
        applyTransforms_eq_apply, ← Revision.apply_followedBy, ← Revision.apply_followedBy,
        ← Revision.apply_followedBy, ← Revision.apply_followedBy]
      simp [Revision.followedBy, Deed.revision, Deed.description?, Deed.interactions,
        Deed.transforms, Deed.performance, withoutNames]

end World

end TextAdventure
