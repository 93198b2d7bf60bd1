import TextAdventure.Proofs.Acting
import TextAdventure.Proofs.Custody
import TextAdventure.Proofs.Development

/-!
# Effects are local

Whatever an event names, and however far away, it reaches few fields.  Of the rooms it can change
only what lies in the one where the player is, and of an item besides its flags only the
description, which an interaction with an item of that name must give.
-/

set_option autoImplicit false

namespace TextAdventure

section Lists

variable {α : Type} {p : α → Bool} {change : α → α}

theorem getElem?_updateFirst {k : Nat} (l : List α) (other : l.findIdx? p ≠ some k) :
    (updateFirst p change l)[k]? = l[k]? := by
  induction l generalizing k with
  | nil => rfl
  | cons a rest ih =>
      by_cases found : p a = true
      · cases k with
        | zero => simp [List.findIdx?_cons, found] at other
        | succ k => simp [updateFirst, found]
      · cases k with
        | zero => simp [updateFirst, found]
        | succ k =>
            have later : rest.findIdx? p ≠ some k := by
              simpa [List.findIdx?_cons, found] using other
            simpa [updateFirst, found] using ih later

theorem getElem?_updateFirst_self {k : Nat} (l : List α) (here : l.findIdx? p = some k) :
    (updateFirst p change l)[k]? = l[k]?.map change := by
  induction l generalizing k with
  | nil => rfl
  | cons a rest ih =>
      by_cases found : p a = true
      · obtain rfl : 0 = k := by simpa [List.findIdx?_cons, found] using here
        simp [updateFirst, found]
      · obtain ⟨later, there, rfl⟩ : ∃ later, rest.findIdx? p = some later ∧ later + 1 = k := by
          simpa [List.findIdx?_cons, found] using here
        simpa [updateFirst, found] using ih there

end Lists

namespace World

/-- Where the current room stands in the list of rooms. -/
def currentPlace? (w : World) : Option Nat :=
  w.rooms.findIdx? (·.name == w.player.location)

/-- Rooms change only in what lies in them, and only at these places; items change in their flags
and get these descriptions; objectives change in their marks and in the count of their hints. -/
structure Confined (entered : Nat → Prop) (described : String → List String → Prop)
    (before after : World) : Prop where
  plan : after.plan = before.plan
  elsewhere : ∀ k, ¬ entered k → after.rooms[k]? = before.rooms[k]?
  items : after.items.map Item.fixed = before.items.map Item.fixed
  descriptions : List.Forall₂
    (fun item later => later.description = item.description ∨
      described item.name later.description) before.items after.items
  objectives : after.objectives.map Objective.fixed = before.objectives.map Objective.fixed

theorem Develops.confined {entered : Nat → Prop} {described : String → List String → Prop}
    {before after : World} (develops : before.Develops described after)
    (plan : after.plan = before.plan)
    (elsewhere : ∀ k, ¬ entered k → after.rooms[k]? = before.rooms[k]?) :
    before.Confined entered described after where
  plan := plan
  elsewhere := elsewhere
  items := develops.items_fixed
  descriptions := develops.items.imp fun _ _ becomes => becomes.description
  objectives := map_eq_of_forall₂ (develops.objectives.imp fun _ _ becomes => becomes.fixed)

theorem plan_of_roomsWith {before after : World} {names : List String}
    (rooms : after.rooms = before.roomsWith names) : after.plan = before.plan := by
  rw [plan, plan, rooms, roomsWith]
  apply map_updateFirst
  intro room
  rfl

theorem getElem?_of_roomsWith {before after : World} {names : List String}
    (rooms : after.rooms = before.roomsWith names) {k : Nat}
    (other : before.currentPlace? ≠ some k) : after.rooms[k]? = before.rooms[k]? := by
  rw [rooms]
  exact getElem?_updateFirst before.rooms other

theorem Alters.rooms {w altered : World} {v : Vocabulary} {intent : Intent} {response : Response}
    (alters : w.Alters v intent response altered) : ∃ names, altered.rooms = w.roomsWith names := by
  cases alters with
  | nothing => exact ⟨_, w.roomsWith_lyingHere.symm⟩
  | hinted => exact ⟨_, w.roomsWith_lyingHere.symm⟩
  | walked destination action can success => exact ⟨_, w.roomsWith_lyingHere.symm⟩
  | took item action can success => exact ⟨_, (w.rearranges_pickUp item.name).rooms⟩
  | dropped item action can success => exact ⟨_, (w.rearranges_putDown item.name).rooms⟩
  | did deed doing success => exact ⟨_, (w.rearranges_carryOutDeed deed).rooms⟩

theorem Marks.rooms {before after : World} (marks : before.Marks after) :
    after.rooms = before.rooms := by
  obtain ⟨won, watched, dirty, _, _, rfl⟩ := marks
  rfl

end World

namespace Game

open World

theorem rooms_after (g : Game) {event : Event} (loadless : g.loaded? (g.request? event) = none) :
    ∃ names, (g.after event).world.rooms = g.world.roomsWith names := by
  rcases g.after_cases loadless with marks | ⟨intent, response, w, _, _, alters, marks⟩
  · exact ⟨_, marks.rooms.trans g.world.roomsWith_lyingHere.symm⟩
  · obtain ⟨names, rooms⟩ := alters.rooms
    exact ⟨names, marks.rooms.trans rooms⟩

/-! ## Descriptions -/

/-- An event that does something with items is a line that succeeds. -/
theorem status_of_deed? {g : Game} {event : Event} {deed : Deed}
    (doing : g.deed? event = some deed) : (g.reply? event).map (·.status) = some .success := by
  obtain ⟨⟨item, action⟩, listed⟩ : ∃ done, done ∈ deed.performance := by
    cases deed <;> exact ⟨_, List.mem_cons_self⟩
  have performed : g.performance event = deed.performance := by
    rw [performance, doing]
    rfl
  rw [← performed] at listed
  exact (mem_performance_iff.mp listed).1

/-- An event performs an interaction on an item of this name: it is a line that succeeds, and this
is part of what it does. -/
def Enacts (g : Game) (event : Event) (name : String) (i : Interaction) : Prop :=
  (g.reply? event).map (·.status) = some .success ∧
    ∃ intent deed, g.intent? event = some intent ∧ g.world.Does intent deed ∧
      (name, i) ∈ deed.interactions

/-- An event performs an interaction on an item of this name that gives this description. -/
def Describes (name : String) (text : List String) (g : Game) (event : Event) : Prop :=
  ∃ i, g.Enacts event name i ∧ i.newDescription = some text

theorem Redescribes.describes {name : String} {text : List String} {g : Game} {event : Event}
    (named : g.Redescribes name text event) : g.Describes name text event := by
  obtain ⟨deed, doing, i, listed, gives⟩ := named
  obtain ⟨intent, asked, does⟩ := Option.bind_eq_some_iff.mp doing
  exact ⟨i, ⟨status_of_deed? doing, intent, deed, asked, deed?_eq_some.mp does, listed⟩, gives⟩

/-! ## Runs -/

theorem Sometime.mono {happens more : Game → Event → Prop}
    (wider : ∀ g event, happens g event → more g event) {events : List Event} {g : Game}
    (sometime : g.Sometime happens events) : g.Sometime more events := by
  induction events generalizing g with
  | nil => exact sometime
  | cons event rest ih => exact sometime.imp (wider g event) ih

/-- The current room is at this place in the list of rooms. -/
def IsAt (k : Nat) (g : Game) (_ : Event) : Prop := g.world.currentPlace? = some k

theorem rooms_run (events : List Event) {g : Game} (loadless : g.Loadless events) :
    (g.run events).world.plan = g.world.plan ∧
      ∀ k, ¬ g.Sometime (IsAt k) events → (g.run events).world.rooms[k]? = g.world.rooms[k]? := by
  induction events generalizing g with
  | nil => exact ⟨rfl, fun _ _ => rfl⟩
  | cons event rest ih =>
      obtain ⟨names, rooms⟩ := g.rooms_after loadless.1
      obtain ⟨plan, elsewhere⟩ := ih loadless.2
      refine ⟨plan.trans (plan_of_roomsWith rooms), ?_⟩
      intro k never
      -- The current room differs from step to step, so each step needs its own part of `never`.
      obtain ⟨other, later⟩ := not_or.mp never
      exact (elsewhere k later).trans (getElem?_of_roomsWith rooms other)

/-- An event that loads nothing changes of the rooms only what lies in the current one, and changes
the description of an item only to one that an interaction with an item of that name gives; names,
exits, tables and all else that is not a flag, a mark or a count stays.  So in a run that loads
nothing, the rooms where the player never was are as before, and a description is the first one or
was given on the way. -/
theorem effects_are_local (g : Game) :
    (∀ event, g.loaded? (g.request? event) = none →
      g.world.Confined (fun k => g.world.currentPlace? = some k)
        (fun name text => g.Describes name text event) (g.after event).world) ∧
    ∀ events, g.Loadless events →
      g.world.Confined (fun k => g.Sometime (IsAt k) events)
        (fun name text => g.Sometime (Describes name text) events) (g.run events).world := by
  constructor
  · intro event loadless
    obtain ⟨names, rooms⟩ := g.rooms_after loadless
    have develops := (g.develops_after loadless).mono fun _ _ => Redescribes.describes
    exact develops.confined (plan_of_roomsWith rooms) fun _ => getElem?_of_roomsWith rooms
  · intro events loadless
    obtain ⟨plan, elsewhere⟩ := rooms_run events loadless
    have develops := (develops_run events loadless).mono fun _ _ =>
      Sometime.mono fun _ _ => Redescribes.describes
    exact develops.confined plan elsewhere

end Game

namespace PickleQuest

/-- The drawer gets another description as it is opened, and the pantry stays as it is. -/
theorem drawer_is_described_when_opened :
    let opening := [Event.line "open drawer" true, .turn "go south"]
    inKitchen.Loadless opening ∧
      inKitchen.Describes "drawer" ["A drawer full of rubber bands and takeout menus."]
        (.line "open drawer" true) ∧
      (inKitchen.run opening).world.rooms[2]? = some pantry := by
  intro opening
  have played : inKitchen.Loadless opening ∧
      (∃ found : 2 < (inKitchen.after (.line "open drawer" true)).world.items.length,
        ((inKitchen.after (.line "open drawer" true)).world.items.get ⟨2, found⟩).description =
          ["A drawer full of rubber bands and takeout menus."]) ∧
      inKitchen.world.currentPlace? = some 1 ∧
      (inKitchen.after (.line "open drawer" true)).world.currentPlace? = some 1 := by
    decide +kernel
  obtain ⟨loadless, ⟨found, described⟩, start, next⟩ := played
  have confined := inKitchen.effects_are_local
  refine ⟨loadless, ?_, ?_⟩
  · have opened := confined.1 (.line "open drawer" true) loadless.1
    have becomes := opened.descriptions.get (by decide) found
    rw [described] at becomes
    exact becomes.resolve_left (by decide)
  · have elsewhere := (confined.2 opening loadless).elsewhere 2
    refine elsewhere ?_
    rintro (here | here | never)
    · rw [Game.IsAt, start] at here
      contradiction
    · rw [Game.IsAt, next] at here
      contradiction
    · exact never

end PickleQuest

end TextAdventure
