import Mathlib.Data.List.Forall2
import Mathlib.Data.List.Nodup
import TextAdventure.Proofs.Changes

/-!
# How items, objectives and the player develop

Whatever is done in a world, its items and objectives stay the same records in the same order.  Only
an item's description and flags change, and of the flags each in one direction; of an objective only
the completion of its markers and the count of its hints; and the player's visits are only added to.
This relation is a preorder that every change respects, so every event and every run does.
-/

set_option autoImplicit false

namespace TextAdventure

section Lists

variable {α : Type} {R : α → α → Prop}

theorem forall₂_trans (trans : ∀ a b c, R a b → R b c → R a c) {first second third : List α}
    (early : List.Forall₂ R first second) (late : List.Forall₂ R second third) :
    List.Forall₂ R first third := by
  induction early generalizing third with
  | nil => exact late
  | cons head _ ih =>
      cases late with
      | cons next rest => exact .cons (trans _ _ _ head next) (ih rest)

theorem forall₂_updateFirst (refl : ∀ a, R a a) {p : α → Bool} {change : α → α}
    (step : ∀ a, p a = true → R a (change a)) (l : List α) :
    List.Forall₂ R l (updateFirst p change l) := by
  induction l with
  | nil => exact .nil
  | cons a rest ih =>
      by_cases found : p a = true
      · rw [updateFirst, if_pos found]
        exact .cons (step a found) (List.forall₂_same.mpr fun a _ => refl a)
      · rw [updateFirst, if_neg found]
        exact .cons (refl a) ih

theorem map_eq_of_forall₂ {β : Type} {view : α → β} {l m : List α}
    (same : List.Forall₂ (fun a b => view b = view a) l m) : m.map view = l.map view := by
  induction same with
  | nil => rfl
  | cons head _ ih => rw [List.map_cons, List.map_cons, head, ih]

end Lists

/-! ## Records -/

namespace Item

/-- What nothing changes of an item: all but its description and its flags. -/
def fixed (item : Item) : Item :=
  { item with description := [], discovered := false, locked := false, hidden := false }

theorem name_of_fixed {item other : Item} (same : other.fixed = item.fixed) :
    other.name = item.name := by
  have name : other.fixed.name = item.fixed.name := congrArg Item.name same
  exact name

theorem interaction?_of_fixed {item other : Item} (same : other.fixed = item.fixed)
    (action : String) : other.interaction? action = item.interaction? action := by
  have interaction : other.fixed.interaction? action = item.fixed.interaction? action :=
    congrArg (Item.interaction? · action) same
  exact interaction

/-- What may become of an item if the names of items can be given descriptions as `told` says. -/
structure Develops (told : String → List String → Prop) (before after : Item) : Prop where
  fixed : after.fixed = before.fixed
  discovered : before.discovered = true → after.discovered = true
  hidden : after.hidden = true → before.hidden = true
  locked : after.locked = true → before.locked = true
  description : after.description = before.description ∨ told before.name after.description

variable {told : String → List String → Prop}

theorem Develops.refl (item : Item) : item.Develops told item :=
  ⟨rfl, id, id, id, Or.inl rfl⟩

theorem Develops.name {before after : Item} (develops : before.Develops told after) :
    after.name = before.name :=
  name_of_fixed develops.fixed

theorem Develops.trans {before middle after : Item} (early : before.Develops told middle)
    (late : middle.Develops told after) : before.Develops told after := by
  refine ⟨late.fixed.trans early.fixed, fun known => late.discovered (early.discovered known),
    fun unseen => early.hidden (late.hidden unseen),
    fun shut => early.locked (late.locked shut), ?_⟩
  rcases late.description with same | named
  · rw [same]
    exact early.description
  · -- What was told later was told of the same name.
    rw [early.name] at named
    exact Or.inr named

end Item

namespace Objective

/-- What nothing changes of an objective: all but the completion of its markers and the count of
its hints. -/
def fixed (objective : Objective) : Objective :=
  { objective with
    markers := objective.markers.map fun marker => { marker with complete := false }
    hintCount := 0 }

structure Develops (before after : Objective) : Prop where
  fixed : after.fixed = before.fixed
  hintCount : before.hintCount ≤ before.hints.length →
    before.hintCount ≤ after.hintCount ∧ after.hintCount ≤ after.hints.length

theorem Develops.refl (objective : Objective) : objective.Develops objective :=
  ⟨rfl, fun bound => ⟨Nat.le_refl _, bound⟩⟩

theorem Develops.trans {before middle after : Objective} (early : before.Develops middle)
    (late : middle.Develops after) : before.Develops after := by
  refine ⟨late.fixed.trans early.fixed, ?_⟩
  intro bound
  obtain ⟨grown, kept⟩ := early.hintCount bound
  obtain ⟨later, bounded⟩ := late.hintCount kept
  exact ⟨Nat.le_trans grown later, bounded⟩

theorem develops_record (item action : String) (objective : Objective) :
    objective.Develops (objective.record item action) := by
  refine ⟨?_, fun bound => ⟨Nat.le_refl _, bound⟩⟩
  have cleared : ∀ marker : Marker,
      { marker.record item action with complete := false } =
        { marker with complete := false } := by
    intro marker
    unfold Marker.record
    split <;> rfl
  simp [fixed, record, cleared]

theorem develops_revealHint (objective : Objective) : objective.Develops objective.revealHint := by
  refine ⟨rfl, ?_⟩
  intro bound
  simp only [revealHint]
  omega

end Objective

namespace Player

structure Develops (before after : Player) : Prop where
  won : before.won = true → after.won = true
  watchedCredits : before.watchedCredits = true → after.watchedCredits = true
  visitedRooms : ∃ more, after.visitedRooms = before.visitedRooms ++ more ∧ more.Nodup ∧
    ∀ room ∈ more, room ∉ before.visitedRooms

theorem develops_of_visits {before after : Player}
    (won : before.won = true → after.won = true)
    (watchedCredits : before.watchedCredits = true → after.watchedCredits = true)
    (visitedRooms : after.visitedRooms = before.visitedRooms) : before.Develops after := by
  refine ⟨won, watchedCredits, [], ?_, List.nodup_nil, fun _ listed => nomatch listed⟩
  rw [visitedRooms, List.append_nil]

theorem develops_visit (player : Player) (room : String) : player.Develops (player.visit room) := by
  refine ⟨id, id, ?_⟩
  by_cases visited : room ∈ player.visitedRooms
  · exact ⟨[], by simp [visit, addName, visited], List.nodup_nil, fun _ listed => nomatch listed⟩
  · refine ⟨[room], by simp [visit, addName, visited], List.nodup_singleton room, ?_⟩
    intro other listed
    rw [List.mem_singleton.mp listed]
    exact visited

theorem Develops.trans {before middle after : Player} (early : before.Develops middle)
    (late : middle.Develops after) : before.Develops after := by
  obtain ⟨more, first, once, fresh⟩ := early.visitedRooms
  obtain ⟨others, second, othersOnce, othersFresh⟩ := late.visitedRooms
  rw [first] at second othersFresh
  refine ⟨fun won => late.won (early.won won),
    fun watched => late.watchedCredits (early.watchedCredits watched), more ++ others,
    by rw [second, List.append_assoc], ?_, ?_⟩
  · refine List.nodup_append.mpr ⟨once, othersOnce, ?_⟩
    intro room listed other later same
    exact othersFresh other later (List.mem_append_right _ (same ▸ listed))
  · intro room listed
    rcases List.mem_append.mp listed with listed | later
    · exact fresh room listed
    · exact fun known => othersFresh room later (List.mem_append_left _ known)

end Player

namespace World

structure Develops (told : String → List String → Prop) (before after : World) : Prop where
  items : List.Forall₂ (Item.Develops told) before.items after.items
  objectives : List.Forall₂ Objective.Develops before.objectives after.objectives
  player : before.player.Develops after.player

variable {told : String → List String → Prop}

theorem Develops.items_fixed {before after : World} (develops : before.Develops told after) :
    after.items.map Item.fixed = before.items.map Item.fixed :=
  map_eq_of_forall₂ (develops.items.imp fun _ _ becomes => becomes.fixed)

/-! ## Parts of a world -/

theorem develops_of_player {before after : World} (items : after.items = before.items)
    (objectives : after.objectives = before.objectives)
    (player : before.player.Develops after.player) : before.Develops told after := by
  refine ⟨?_, ?_, player⟩
  · rw [items]
    exact List.forall₂_same.mpr fun item _ => Item.Develops.refl item
  · rw [objectives]
    exact List.forall₂_same.mpr fun objective _ => Objective.Develops.refl objective

theorem Develops.refl (w : World) : w.Develops told w :=
  develops_of_player rfl rfl (Player.develops_of_visits id id rfl)

theorem Develops.trans {before middle after : World} (early : before.Develops told middle)
    (late : middle.Develops told after) : before.Develops told after := by
  have items : ∀ a b c : Item, a.Develops told b → b.Develops told c → a.Develops told c :=
    fun _ _ _ => Item.Develops.trans
  have objectives : ∀ a b c : Objective, a.Develops b → b.Develops c → a.Develops c :=
    fun _ _ _ => Objective.Develops.trans
  exact ⟨forall₂_trans items early.items late.items,
    forall₂_trans objectives early.objectives late.objectives, early.player.trans late.player⟩

theorem Develops.mono {more : String → List String → Prop} {before after : World}
    (develops : before.Develops told after) (wider : ∀ name text, told name text → more name text) :
    before.Develops more after := by
  refine ⟨develops.items.imp ?_, develops.objectives, develops.player⟩
  intro item later becomes
  exact ⟨becomes.fixed, becomes.discovered, becomes.hidden, becomes.locked,
    becomes.description.imp id (wider _ _)⟩

theorem develops_updateItem (w : World) (name : String) {change : Item → Item}
    (step : ∀ item : Item, item.name = name → item.Develops told (change item)) :
    w.Develops told (w.updateItem name change) := by
  refine ⟨forall₂_updateFirst Item.Develops.refl ?_ w.items,
    List.forall₂_same.mpr fun objective _ => Objective.Develops.refl objective,
    Player.develops_of_visits id id rfl⟩
  intro item named
  exact step item (by simpa using named)

theorem develops_updateItems (w : World) (names : List String) {change : Item → Item}
    (step : ∀ item : Item, item.Develops told (change item)) :
    w.Develops told (w.updateItems names change) := by
  induction names generalizing w with
  | nil => exact Develops.refl w
  | cons name rest ih =>
      have first := w.develops_updateItem name fun item _ => step item
      exact first.trans (ih (w.updateItem name change))

theorem develops_objectives (w : World) {objectives : List Objective}
    (develops : List.Forall₂ Objective.Develops w.objectives objectives) :
    w.Develops told { w with objectives := objectives } :=
  ⟨List.forall₂_same.mpr fun item _ => Item.Develops.refl item, develops,
    Player.develops_of_visits id id rfl⟩

theorem develops_movePlayer (w : World) (room : String) : w.Develops told (w.movePlayer room) := by
  have moved : w.player.Develops { w.player with location := room } :=
    Player.develops_of_visits id id rfl
  exact develops_of_player rfl rfl (moved.trans (Player.develops_visit _ room))

/-! ## What is done with items -/

theorem develops_discover (item : Item) : item.Develops told { item with discovered := true } :=
  ⟨rfl, fun _ => rfl, id, id, Or.inl rfl⟩

theorem develops_unhide (item : Item) : item.Develops told { item with hidden := false } :=
  ⟨rfl, id, (fun unseen => nomatch unseen), id, Or.inl rfl⟩

theorem develops_unlock (item : Item) : item.Develops told { item with locked := false } :=
  ⟨rfl, id, id, (fun shut => nomatch shut), Or.inl rfl⟩

theorem develops_describe {item : Item} {text : List String} (named : told item.name text) :
    item.Develops told { item with description := text } :=
  ⟨rfl, id, id, id, Or.inr named⟩

theorem develops_pickUp (w : World) (name : String) : w.Develops told (w.pickUp name) := by
  have given : w.Develops told (w.carry name) :=
    develops_of_player rfl rfl (Player.develops_of_visits id id rfl)
  have known := given.trans (develops_updateItem _ name fun item _ => develops_discover item)
  exact known.trans (develops_of_player rfl rfl (Player.develops_of_visits id id rfl))

theorem develops_removeNearby (w : World) (name : String) :
    w.Develops told (w.removeNearby name) :=
  develops_of_player rfl rfl (Player.develops_of_visits id id rfl)

theorem develops_produce (w : World) (name : String) : w.Develops told (w.produce name) := by
  have given : w.Develops told ((w.removeNearby name).updatePlayer (·.take name)) :=
    develops_of_player rfl rfl (Player.develops_of_visits id id rfl)
  exact given.trans (develops_updateItem _ name fun item _ => develops_discover item)

theorem develops_reveal (w : World) (i : Interaction) : w.Develops told (w.reveal i) := by
  have unhide : ∀ item : Item, item.Develops told { item with hidden := false } := develops_unhide
  have unhidden := w.develops_updateItems i.unhides unhide
  have unlocked := unhidden.trans (develops_updateItems _ i.unlocks develops_unlock)
  exact unlocked.trans (develops_updateItems _ i.discovers develops_discover)

theorem develops_applyEffects (w : World) {name : String} (action : String) {i : Interaction}
    (named : ∀ text, i.newDescription = some text → told name text) :
    w.Develops told (w.applyEffects name action i) := by
  have recorded : ∀ v : World, v.Develops told
      { v with objectives := v.objectives.map (Objective.record name action) } := by
    intro v
    apply develops_objectives
    rw [List.forall₂_map_right_iff]
    exact List.forall₂_same.mpr fun objective _ => objective.develops_record name action
  unfold applyEffects
  cases described : i.newDescription with
  | none => exact recorded w
  | some text =>
      have named_ := named text described
      apply Develops.trans _ (recorded _)
      apply develops_updateItem
      intro item same
      exact develops_describe (same ▸ named_)

end World

namespace Deed

/-- A deed gives a new description to the items of a name. -/
def Redescribes (deed : Deed) (name : String) (text : List String) : Prop :=
  ∃ i, (name, i) ∈ deed.interactions ∧ i.newDescription = some text

end Deed

namespace World

theorem staysWithin_develops (deed : Deed) : deed.StaysWithin (Develops deed.Redescribes) where
  refl := Develops.refl
  trans := Develops.trans
  effects := by
    intro w name action i listed
    exact w.develops_applyEffects action fun text described => ⟨i, listed, described⟩
  reveal := develops_reveal
  removal := develops_removeNearby
  production := develops_produce
  touch _ := develops_of_player rfl rfl (Player.develops_of_visits id id rfl)

theorem Marks.develops {told : String → List String → Prop} {before after : World}
    (marks : before.Marks after) : before.Develops told after := by
  obtain ⟨won, watched, dirty, keptWin, keptCredits, rfl⟩ := marks
  exact develops_of_player rfl rfl (Player.develops_of_visits keptWin keptCredits rfl)

/-- A change of a world gives descriptions only as the deed that it carries out does. -/
theorem Alters.develops {w altered : World} {v : Vocabulary} {intent : Intent} {response : Response}
    (alters : w.Alters v intent response altered) :
    w.Develops (fun name text => ∃ deed, w.deed? intent = some deed ∧ deed.Redescribes name text)
      altered := by
  cases alters with
  | nothing => exact Develops.refl w
  | hinted =>
      apply develops_objectives
      exact forall₂_updateFirst Objective.Develops.refl
        (fun objective _ => objective.develops_revealHint) w.objectives
  | walked destination action can success =>
      exact w.develops_movePlayer destination.name
  | took item action can success =>
      exact w.develops_pickUp item.name
  | dropped item action can success =>
      exact develops_of_player rfl rfl (Player.develops_of_visits id id rfl)
  | did deed doing success =>
      exact ((staysWithin_develops deed).carryOut w).mono fun _ _ named => ⟨deed, doing, named⟩

end World

namespace Game

open World

/-- An event gives a new description to the items of a name. -/
def Redescribes (name : String) (text : List String) (g : Game) (event : Event) : Prop :=
  ∃ deed, g.deed? event = some deed ∧ deed.Redescribes name text

theorem develops_after (g : Game) {event : Event}
    (loadless : g.loaded? (g.request? event) = none) :
    g.world.Develops (fun name text => g.Redescribes name text event) (g.after event).world := by
  rcases g.after_cases loadless with marks | ⟨intent, response, w, asked, _, alters, marks⟩
  · exact marks.develops
  · have altered : g.world.Develops (fun name text => g.Redescribes name text event) w := by
      apply alters.develops.mono
      rintro name text ⟨deed, doing, named⟩
      exact ⟨deed, by rw [deed?, asked]; exact doing, named⟩
    exact altered.trans marks.develops

theorem develops_run (events : List Event) {g : Game} (loadless : g.Loadless events) :
    g.world.Develops (fun name text => g.Sometime (Redescribes name text) events)
      (g.run events).world := by
  induction events generalizing g with
  | nil => exact Develops.refl g.world
  | cons event rest ih =>
      have first : g.world.Develops
          (fun name text => g.Sometime (Redescribes name text) (event :: rest))
          (g.after event).world := (g.develops_after loadless.1).mono fun _ _ => Or.inl
      exact first.trans ((ih loadless.2).mono fun _ _ => Or.inr)

theorem develops_states (events : List Event) {g : Game} (loadless : g.Loadless events) :
    ∀ s ∈ g.states events, g.world.Develops (fun _ _ => True) s.world := by
  refine invariant_states (P := fun s => g.world.Develops (fun _ _ => True) s.world) events
    (Develops.refl g.world) ?_
  intro s event member develops
  have next := (s.develops_after (loadless.of_mem_steps member)).mono fun _ _ _ => trivial
  exact develops.trans next

end Game

end TextAdventure
