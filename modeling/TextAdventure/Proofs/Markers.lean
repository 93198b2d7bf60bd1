import TextAdventure.Proofs.Acting
import TextAdventure.Proofs.Rejection
import TextAdventure.Proofs.Standing

/-!
# The markers of objectives are earned

What a line does to the markers of all objectives is told by what it has performed: a list of items
with the actions that were performed on them, which is empty unless the line succeeds in acting on
items.  The markers of exactly these are set, and no other command touches a marker but a load.
-/

set_option autoImplicit false

namespace TextAdventure

/-! ## What was performed -/

/-- Items, each with the key of an action that was performed on it. -/
abbrev Performance := List (String × String)

namespace Marker

/-- The marker after a performance. -/
def earn (done : Performance) (marker : Marker) : Marker :=
  if (marker.item, marker.action) ∈ done then { marker with complete := true } else marker

theorem record_eq_earn (item action : String) :
    record item action = earn [(item, action)] := by
  funext marker
  simp [record, earn]

theorem earn_nil : earn [] = id := by
  funext marker
  simp [earn]

theorem earn_earn (first second : Performance) (marker : Marker) :
    earn second (earn first marker) = earn (first ++ second) marker := by
  by_cases early : (marker.item, marker.action) ∈ first
  · by_cases late : (marker.item, marker.action) ∈ second <;> simp [earn, early, late]
  · simp [earn, early]

/-- A performance sets a marker or leaves it alone. -/
theorem complete_earn (done : Performance) (marker : Marker) :
    (earn done marker).item = marker.item ∧ (earn done marker).action = marker.action ∧
      ((earn done marker).complete = true ↔
        marker.complete = true ∨ (marker.item, marker.action) ∈ done) := by
  unfold earn
  split
  · rename_i listed
    simp [listed]
  · rename_i missing
    simp [missing]

end Marker

namespace Deed

def performance : Deed → Performance
  | single item action _ => [(item, action)]
  | paired first second _ _ => [(first, World.pairedUse), (second, World.pairedUse)]

end Deed

namespace World

/-- One of the targets finds an item of this name, and this is to be done to it. -/
def Finds (w : World) (attempts : List (String × String)) (item action : String) : Prop :=
  ∃ target found, (target, action) ∈ attempts ∧ w.item? target = some found ∧ found.name = item

theorem finds_nil {w : World} {item action : String} : ¬ w.Finds [] item action := by
  rintro ⟨target, found, listed, _⟩
  exact absurd listed List.not_mem_nil

theorem finds_cons {w : World} {target key : String} {rest : List (String × String)}
    {named : Item} (found : w.item? target = some named) {item action : String} :
    w.Finds ((target, key) :: rest) item action ↔
      (item, action) = (named.name, key) ∨ w.Finds rest item action := by
  constructor
  · rintro ⟨other, otherNamed, listed, otherFound, rfl⟩
    rcases List.mem_cons.mp listed with same | later
    · cases same
      rw [found, Option.some.injEq] at otherFound
      exact Or.inl (by rw [otherFound])
    · exact Or.inr ⟨other, otherNamed, later, otherFound, rfl⟩
  · rintro (same | ⟨other, otherNamed, later, otherFound, rfl⟩)
    · cases same
      exact ⟨target, named, List.mem_cons_self, found, rfl⟩
    · exact ⟨other, otherNamed, List.mem_cons_of_mem _ later, otherFound, rfl⟩

theorem interaction_of_deed? {w : World} {intent : Intent} {deed : Deed}
    (doing : w.deed? intent = some deed) : intent.action.group? = some .interaction := by
  by_cases group : intent.action.group? = some .interaction
  · exact group
  · rw [deed?_eq_none group] at doing
    contradiction

/-- A deed performs what the targets of the intent are for, on the items that they find. -/
theorem mem_performance {w : World} {intent : Intent} {deed : Deed}
    (doing : w.deed? intent = some deed) (item action : String) :
    (item, action) ∈ deed.performance ↔ w.Finds intent.attempts item action := by
  cases deed?_eq_some.mp doing with
  | alone asked can =>
      rw [asked, finds_cons can.found, or_iff_left finds_nil]
      exact List.mem_singleton
  | paired asked can canOther =>
      rw [asked, finds_cons can.found, finds_cons canOther.found, or_iff_left finds_nil]
      simp [Deed.performance]

end World

namespace Game

/-- The response to an event that is read as a line. -/
def reply? (g : Game) : Event → Option Response
  | .line text fromPlayer => some (g.respond text fromPlayer).response
  | .turn text => (g.takeTurn text).1.head?.map (·.1)
  | _ => none

/-- An event performs an action on an item of this name: it is a line that succeeds, and one of the
targets that the line acts on is that item's. -/
def Performs (g : Game) (event : Event) (item action : String) : Prop :=
  (g.reply? event).map (·.status) = some .success ∧
    ∃ intent, g.intent? event = some intent ∧ g.world.Finds intent.attempts item action

/-- What an event performs. -/
def performance (g : Game) (event : Event) : Performance :=
  ((g.deed? event).map Deed.performance).getD []

theorem mem_performance_line {g : Game} {line : String} {fromPlayer : Bool} {item action : String} :
    (item, action) ∈ g.performance (.line line fromPlayer) ↔
      (g.respond line fromPlayer).response.status = .success ∧
        g.world.Finds (g.interpret line fromPlayer).1.attempts item action := by
  have deedOf : g.deed? (.line line fromPlayer) =
      g.world.deed? (g.interpret line fromPlayer).1 := rfl
  rw [performance, deedOf]
  constructor
  · intro listed
    cases doing : g.world.deed? (g.interpret line fromPlayer).1 with
    | none =>
        rw [doing] at listed
        exact absurd listed List.not_mem_nil
    | some deed =>
        rw [doing] at listed
        refine ⟨?_, (World.mem_performance doing item action).mp listed⟩
        rw [g.respond_interaction line fromPlayer (World.interaction_of_deed? doing)]
        exact (g.world.interaction_success_iff _).mpr ⟨deed, World.deed?_eq_some.mp doing⟩
  · rintro ⟨success, finds⟩
    have tries : (g.interpret line fromPlayer).1.attempts ≠ [] := by
      intro idle
      rw [idle] at finds
      exact World.finds_nil finds
    rw [g.respond_interaction line fromPlayer (Intent.interaction_of_attempts tries)] at success
    obtain ⟨deed, does⟩ := (g.world.interaction_success_iff _).mp success
    have doing := World.deed?_eq_some.mpr does
    rw [doing]
    exact (World.mem_performance doing item action).mpr finds

theorem mem_performance_iff {g : Game} {event : Event} {item action : String} :
    (item, action) ∈ g.performance event ↔ g.Performs event item action := by
  have line : ∀ text fromPlayer, (item, action) ∈ g.performance (.line text fromPlayer) ↔
      g.Performs (.line text fromPlayer) item action := by
    intro text fromPlayer
    rw [mem_performance_line, Performs]
    simp [reply?, intent?]
  cases event with
  | line text fromPlayer => exact line text fromPlayer
  | turn text => exact line text true
  | save => simp [performance, deed?, intent?, Performs]
  | load mode => simp [performance, deed?, intent?, Performs]
  | closing => simp [performance, deed?, intent?, Performs]

end Game

/-! ## What becomes of the markers -/

namespace World

/-- The markers of each objective. -/
def markers (w : World) : List (List Marker) := w.objectives.map (·.markers)

@[simp]
theorem markers_updateItem (w : World) (name : String) (change : Item → Item) :
    (w.updateItem name change).markers = w.markers := rfl

@[simp]
theorem markers_updateItems (w : World) (names : List String) (change : Item → Item) :
    (w.updateItems names change).markers = w.markers := by
  induction names generalizing w with
  | nil => rfl
  | cons name rest ih => exact ih (w.updateItem name change)

@[simp]
theorem markers_reveal (w : World) (i : Interaction) : (w.reveal i).markers = w.markers := by
  simp [reveal]

theorem markers_applyTransform (w : World) (t : Transform) :
    (w.applyTransform t).markers = w.markers := by
  obtain ⟨source, result⟩ := t
  cases source <;> cases result <;> rfl

@[simp]
theorem markers_applyTransforms (w : World) (ts : List Transform) :
    (w.applyTransforms ts).markers = w.markers := by
  induction ts generalizing w with
  | nil => rfl
  | cons t rest ih => exact (ih (w.applyTransform t)).trans (w.markers_applyTransform t)

/-- The markers after a performance. -/
def earned (w : World) (done : Performance) : List (List Marker) :=
  w.markers.map (List.map (Marker.earn done))

theorem earned_nil (w : World) : w.earned [] = w.markers := by
  rw [earned, Marker.earn_nil, List.map_id_fun, List.map_id]

/-- One performance after another is both together. -/
theorem earned_of_markers {w w' : World} {first : Performance} (same : w'.markers = w.earned first)
    (second : Performance) : w'.earned second = w.earned (first ++ second) := by
  rw [earned, same, earned, earned, List.map_map]
  refine List.map_congr_left fun marks _ => ?_
  rw [Function.comp_apply, List.map_map]
  exact List.map_congr_left fun marker _ => Marker.earn_earn first second marker

@[simp]
theorem markers_applyEffects (w : World) (name action : String) (i : Interaction) :
    (w.applyEffects name action i).markers = w.earned [(name, action)] := by
  have recorded : (w.applyEffects name action i).objectives =
      w.objectives.map (Objective.record name action) := by
    unfold applyEffects
    cases i.newDescription <;> rfl
  rw [markers, recorded, earned, markers, List.map_map, List.map_map]
  refine List.map_congr_left fun objective _ => ?_
  rw [Function.comp_apply, Function.comp_apply, Objective.record, Marker.record_eq_earn]

theorem markers_carryOutDeed (w : World) (deed : Deed) :
    (w.carryOutDeed deed).state.markers = w.earned deed.performance := by
  cases deed with
  | single item action i =>
      have kept : (w.carryOutDeed (.single item action i)).state.markers =
          (((w.applyEffects item action i).reveal i).applyTransforms i.transforms).markers := rfl
      rw [kept, markers_applyTransforms, markers_reveal, markers_applyEffects, Deed.performance]
  | paired first second i j =>
      have kept : (w.carryOutDeed (.paired first second i j)).state.markers =
          (((((w.applyEffects first pairedUse i).applyEffects second pairedUse j).reveal i).reveal
            j).applyTransforms i.transforms).markers := rfl
      rw [kept, markers_applyTransforms, markers_reveal, markers_reveal, markers_applyEffects,
        earned_of_markers (markers_applyEffects _ _ _ _), Deed.performance]
      rfl

theorem markers_checkVictory (w : World) : w.checkVictory.markers = w.markers := by
  rcases w.checkVictory_cases with same | won
  · rw [same]
  · rw [won]
    rfl

/-- The marker at a place: which objective, and which of its markers. -/
def marker? (w : World) (k m : Nat) : Option Marker :=
  w.markers[k]?.bind (·[m]?)

theorem marker?_of_earned {w w' : World} {done : Performance} (same : w'.markers = w.earned done)
    (k m : Nat) : w'.marker? k m = (w.marker? k m).map (Marker.earn done) := by
  rw [marker?, same, earned, marker?, List.getElem?_map]
  cases w.markers[k]? with
  | none => rfl
  | some marks => exact List.getElem?_map

end World

namespace Game

theorem markers_save (g : Game) : g.save.1.world.markers = g.world.markers := by
  rcases g.save_cases with ⟨files, _, saved⟩ | ⟨files, error, _, failed⟩
  · rw [saved]
    rfl
  · rw [failed]

theorem markers_rollCredits (g : Game) : g.rollCredits.2.world.markers = g.world.markers := by
  rcases g.rollCredits_cases with still | rolled
  · rw [still]
  · rw [rolled]
    rfl

theorem markers_closing (g : Game) : (g.after .closing).world.markers = g.world.markers := by
  rcases g.after_closing with ⟨_, same⟩ | ⟨_, dialogue, _, same⟩
  · rw [same]
  · rw [same]
    split
    · exact markers_save { g with dialogue := dialogue }
    · rfl

theorem group_of_request? {intent : Intent} {request : Request}
    (asked : intent.request? = some request) : intent.action.group? ≠ some .interaction := by
  intro group
  rw [request?_eq_none (by simp [group])] at asked
  contradiction

/-- Without a load, an effect sets the markers that its deed earns, if it does one. -/
theorem Effect.markers {g : Game} {intent : Intent} {outcome : Outcome Game}
    (effect : g.Effect intent outcome) (loadless : g.loaded? intent.request? = none) :
    outcome.state.world.markers =
      g.world.earned (((g.world.deed? intent).map Deed.performance).getD []) := by
  have idle : intent.action.group? ≠ some .interaction →
      g.world.earned (((g.world.deed? intent).map Deed.performance).getD []) = g.world.markers := by
    intro other
    rw [World.deed?_eq_none other]
    exact g.world.earned_nil
  cases effect with
  | told r still quiet =>
      rw [still]
      exact g.world.earned_nil.symm
  | left action => exact (idle (by simp [action, Action.group?])).symm
  | paced speed r action success => exact (idle (by simp [action, Action.group?])).symm
  | hinted action =>
      rw [idle (by simp [action, Action.group?]), hint_state]
      have kept : ∀ objective : Objective, objective.revealHint.markers = objective.markers :=
        fun _ => rfl
      exact map_updateFirst Objective.markers kept _
  | saved asked =>
      rw [idle (group_of_request? asked), saveCommand_state, markers_save]
  | loaded mode asked =>
      have other := group_of_request? asked
      rw [asked] at loadless
      rw [idle other, loadCommand_state, load_of_loadless loadless]
  | walked destination r action can success => exact (idle (by simp [action, Action.group?])).symm
  | took item r action can success => exact (idle (by simp [action, Action.group?])).symm
  | dropped item r action can success => exact (idle (by simp [action, Action.group?])).symm
  | did deed doing =>
      rw [doing]
      exact g.world.markers_carryOutDeed deed

theorem markers_line (g : Game) (line : String) (fromPlayer : Bool)
    (loadless : g.loaded? (g.request? (.line line fromPlayer)) = none) :
    (g.respond line fromPlayer).state.world.markers =
      g.world.earned (g.performance (.line line fromPlayer)) := by
  have doing : g.deed? (.line line fromPlayer) =
      g.world.deed? (g.interpret line fromPlayer).1 := rfl
  rw [performance, doing]
  rcases g.respond_cases line fromPlayer with ⟨silent, same⟩ | ⟨outcome, effect, same⟩
  · rw [same, (silent_idle silent g.world).2]
    exact g.world.earned_nil.symm
  · have quiet : (g.interpret line fromPlayer).2.loaded?
        (g.interpret line fromPlayer).1.request? = none := by
      rw [interpret_state, loaded?_asked]
      exact loadless
    rw [same]
    exact (World.markers_checkVictory _).trans (effect.markers quiet)

theorem markers_after (g : Game) {event : Event} (loadless : g.loaded? (g.request? event) = none) :
    (g.after event).world.markers = g.world.earned (g.performance event) := by
  cases event with
  | line text fromPlayer => exact g.markers_line text fromPlayer loadless
  | turn text =>
      rw [after_turn, markers_rollCredits]
      exact g.markers_line text true loadless
  | save =>
      rw [after, markers_save]
      exact g.world.earned_nil.symm
  | load mode =>
      rw [load_of_loadless loadless]
      exact g.world.earned_nil.symm
  | closing =>
      rw [markers_closing]
      exact g.world.earned_nil.symm

/-- Some event of a run performs an action on an item of this name. -/
def PerformsIn (g : Game) (item action : String) : List Event → Prop
  | [] => False
  | event :: rest => g.Performs event item action ∨ (g.after event).PerformsIn item action rest

end Game

/-- A marker is still that of the same item and action; it stays complete if it was, and else it is
complete exactly if this was performed. -/
structure Marker.Becomes (before after : Marker) (performed : Prop) : Prop where
  item : after.item = before.item
  action : after.action = before.action
  stays : before.complete = true → after.complete = true
  earned : before.complete = false → (after.complete = true ↔ performed)

namespace Marker

theorem becomes_self {marker : Marker} {performed : Prop} (idle : ¬ performed) :
    marker.Becomes marker performed := by
  refine ⟨rfl, rfl, id, fun open_ => ?_⟩
  rw [open_]
  exact iff_of_false Bool.false_ne_true idle

theorem becomes_earn {done : Performance} {marker : Marker} {performed : Prop}
    (counts : (marker.item, marker.action) ∈ done ↔ performed) :
    marker.Becomes (marker.earn done) performed := by
  obtain ⟨item, action, complete⟩ := complete_earn done marker
  refine ⟨item, action, fun before => complete.mpr (Or.inl before), fun open_ => ?_⟩
  rw [complete, open_, counts]
  exact or_iff_right Bool.false_ne_true

theorem Becomes.trans {before middle after : Marker} {first second : Prop}
    (early : before.Becomes middle first) (late : middle.Becomes after second) :
    before.Becomes after (first ∨ second) := by
  refine ⟨late.item.trans early.item, late.action.trans early.action,
    fun complete => late.stays (early.stays complete), fun open_ => ?_⟩
  rw [← early.earned open_]
  cases complete : middle.complete with
  | true => exact iff_of_true (late.stays complete) (Or.inl rfl)
  | false => exact (late.earned complete).trans (or_iff_right Bool.false_ne_true).symm

end Marker

namespace Game

/-- The marker at each place after an event, or after a run, is the one before, and it was earned if
it has become complete. -/
theorem marker_after (g : Game) {event : Event} (loadless : g.loaded? (g.request? event) = none)
    (k m : Nat) :
    Option.Rel (fun before after =>
        before.Becomes after (g.Performs event before.item before.action))
      (g.world.marker? k m) ((g.after event).world.marker? k m) := by
  rw [World.marker?_of_earned (g.markers_after loadless)]
  cases g.world.marker? k m with
  | none => exact .none
  | some marker => exact .some (Marker.becomes_earn mem_performance_iff)

theorem marker_run (events : List Event) {g : Game} (loadless : g.Loadless events) (k m : Nat) :
    Option.Rel (fun before after =>
        before.Becomes after (g.PerformsIn before.item before.action events))
      (g.world.marker? k m) ((g.run events).world.marker? k m) := by
  induction events generalizing g with
  | nil =>
      rw [run_nil]
      cases g.world.marker? k m with
      | none => exact .none
      | some marker => exact .some (Marker.becomes_self id)
  | cons event rest ih =>
      have first := g.marker_after loadless.1 k m
      have others := ih loadless.2
      rw [run_cons]
      generalize ((g.after event).run rest).world.marker? k m = last at others ⊢
      generalize (g.after event).world.marker? k m = middle at first others
      generalize g.world.marker? k m = start at first ⊢
      cases first with
      | none =>
          cases others
          exact .none
      | some early =>
          cases others with
          | some late =>
              rw [early.item, early.action] at late
              exact .some (early.trans late)

/-- Over an event that loads nothing, and over a run of such events, every marker of every objective
stays what it is; it becomes complete exactly if its action was performed on its item, and it never
ceases to be complete. -/
theorem markers_are_earned (g : Game) :
    (∀ event, g.loaded? (g.request? event) = none → ∀ k m,
      Option.Rel (fun before after =>
          before.Becomes after (g.Performs event before.item before.action))
        (g.world.marker? k m) ((g.after event).world.marker? k m)) ∧
    (∀ events, g.Loadless events → ∀ k m,
      Option.Rel (fun before after =>
          before.Becomes after (g.PerformsIn before.item before.action events))
        (g.world.marker? k m) ((g.run events).world.marker? k m)) :=
  ⟨fun _ loadless => g.marker_after loadless, fun events loadless => marker_run events loadless⟩

end Game

namespace PickleQuest

/-- The flashlight is found in the drawer, and its marker is set when it is turned on. -/
theorem flashlight_lights_the_pantry :
    let found := game.run (["go north", "open drawer"].map (.line · true))
    let lighting := Event.line "turn on flashlight" true
    found.loaded? (found.request? lighting) = none ∧
      (found.world.marker? 0 0).map (·.complete) = some false ∧
      ((found.after lighting).world.marker? 0 0).map (·.complete) = some true ∧
      found.Performs lighting "flashlight" "turn on" := by
  intro found lighting
  have played : found.loaded? (found.request? lighting) = none ∧
      found.world.marker? 0 0 = some ⟨"flashlight", "turn on", false⟩ ∧
      (found.after lighting).world.marker? 0 0 = some ⟨"flashlight", "turn on", true⟩ := by
    decide +kernel
  obtain ⟨loadless, before, after⟩ := played
  have becomes := found.markers_are_earned.1 lighting loadless 0 0
  rw [before, after] at becomes ⊢
  cases becomes with
  | some marker => exact ⟨loadless, rfl, rfl, (marker.earned rfl).mp rfl⟩

end PickleQuest

end TextAdventure
