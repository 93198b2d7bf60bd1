import TextAdventure.Proofs.Acting
import TextAdventure.Proofs.Development
import TextAdventure.Proofs.Revision
import TextAdventure.Proofs.Uniqueness

/-!
# The same again, and the other way round

The names and interactions of items never change, so what is asked twice does the same deed twice if
it does one at all; and a deed done twice leaves what it leaves when done once.  For two items used
together the order does not count either, but for the message and for the transforms, which are
those of the first.
-/

set_option autoImplicit false

namespace TextAdventure

open Transform

/-! ## Deeds as revisions -/

namespace Deed

/-- To do a deed twice is to do it once: what it makes, it has taken out of everything before. -/
theorem revision_twice (deed : Deed) :
    (deed.revision.followedBy deed.revision).Alike deed.revision := by
  have cleared : withoutNames deed.revision.gone deed.revision.made = [] := by
    apply List.filter_eq_nil_iff.mpr
    intro name made
    have gone : name ∈ deed.revision.gone := mem_mentions_of_madeBy made
    simpa using gone
  refine ⟨?_, ?_, ?_, ?_, ?_, ?_, ?_⟩ <;> simp [Revision.followedBy, cleared]

/-- An item that is used with itself has one interaction only. -/
theorem revision_swapped {first second : String} {i j : Interaction}
    (transforms : i.transforms = j.transforms) (itself : first = second → i = j) :
    (paired first second i j).revision.Alike (paired second first j i).revision := by
  have described : ∀ name,
      (paired first second i j).description? name =
        (paired second first j i).description? name := by
    intro name
    by_cases same : first = second
    · rw [itself same, same]
    · by_cases named : name = first
      · have other : name ≠ second := named ▸ same
        simp [description?, named, same]
      · simp [description?, named]
  have made : (paired first second i j).transforms = (paired second first j i).transforms :=
    transforms
  refine ⟨described, ?_, ?_, ?_, ?_, congrArg madeBy made, ?_⟩
  · simp [revision, interactions, or_comm]
  · simp [revision, interactions, or_comm]
  · simp [revision, transforms, or_left_comm]
  · simp [revision, made]
  · simp [revision, performance, or_comm]

end Deed

namespace World

theorem apply_again (w : World) (deed : Deed) :
    deed.revision.apply (w.carryOutDeed deed).state = (w.carryOutDeed deed).state := by
  have touched : ∀ v : World, deed.revision.apply v.touch = (deed.revision.apply v).touch :=
    fun _ => rfl
  rw [carryOutDeed_state, touched, ← Revision.apply_followedBy, deed.revision_twice.apply_eq]

theorem state_again (w : World) (deed : Deed) :
    ((w.carryOutDeed deed).state.carryOutDeed deed).state = (w.carryOutDeed deed).state := by
  have touched : (w.carryOutDeed deed).state.touch = (w.carryOutDeed deed).state := by
    rw [carryOutDeed_state]
    rfl
  rw [carryOutDeed_state (w.carryOutDeed deed).state, apply_again, touched]

/-- A victory in between does not matter: a revision does not look at it, and it is won once. -/
theorem checkVictory_again (w : World) (deed : Deed) :
    ((w.carryOutDeed deed).state.checkVictory.carryOutDeed deed).state.checkVictory =
      (w.carryOutDeed deed).state.checkVictory := by
  rcases (w.carryOutDeed deed).state.checkVictory_cases with still | won
  · rw [still, state_again, still]
  · have marked : ∀ v : World, deed.revision.apply (v.marked true v.player.watchedCredits true) =
        (deed.revision.apply v).marked true (deed.revision.apply v).player.watchedCredits true :=
      fun _ => rfl
    have winner : (w.carryOutDeed deed).state.checkVictory =
        (w.carryOutDeed deed).state.marked true
          (w.carryOutDeed deed).state.player.watchedCredits true := won
    have kept : ((w.carryOutDeed deed).state.checkVictory.carryOutDeed deed).state =
        (w.carryOutDeed deed).state.checkVictory := by
      rw [winner, carryOutDeed_state, marked, apply_again]
      rfl
    rw [kept, winner]
    rfl

theorem response_carryOutDeed (before after : World) (deed : Deed) :
    (after.carryOutDeed deed).response = (before.carryOutDeed deed).response := by
  cases deed <;> rfl

theorem fixed_carryOutDeed (w : World) (deed : Deed) :
    (w.carryOutDeed deed).state.items.map Item.fixed = w.items.map Item.fixed :=
  ((staysWithin_develops deed).carryOut w).items_fixed

/-! ## Asking twice -/

section Again

variable {before after : World}

theorem fixed_of_item? (same : after.items.map Item.fixed = before.items.map Item.fixed)
    {target : String} {item again : Item} (found : before.item? target = some item)
    (later : after.item? target = some again) : again.fixed = item.fixed := by
  -- Whether an item answers to a name is told by its fixed part.
  have answering : ∀ w : World, (w.item? target).map Item.fixed =
      (w.items.map Item.fixed).find? (·.answersTo target) := by
    intro w
    rw [List.find?_map]
    rfl
  have both := (answering after).trans ((congrArg _ same).trans (answering before).symm)
  rw [found, later] at both
  exact Option.some.inj both

theorem CanAct.again (same : after.items.map Item.fixed = before.items.map Item.fixed)
    {target action : String} {item other : Item} {i j : Interaction}
    (first : before.CanAct target action item i) (second : after.CanAct target action other j) :
    other.name = item.name ∧ j = i := by
  have fixed := fixed_of_item? same first.found second.found
  have interaction := Item.interaction?_of_fixed fixed action
  rw [first.lists, second.lists] at interaction
  exact ⟨Item.name_of_fixed fixed, Option.some.inj interaction⟩

/-- What a half of a pair lists is told by the name of its item. -/
theorem CanPair.interaction_of_name
    (same : after.items.map Item.fixed = before.items.map Item.fixed) {target further : String}
    {item other : Item} {i j : Interaction} (first : before.CanPair target item i)
    (second : after.CanPair further other j) (name : other.name = item.name) : j = i := by
  obtain ⟨listing, found, lists, _⟩ := first.lists
  obtain ⟨listingLater, foundLater, listsLater, _⟩ := second.lists
  rw [name] at foundLater
  have interaction := Item.interaction?_of_fixed (fixed_of_item? same found foundLater) pairedUse
  rw [lists, listsLater] at interaction
  exact Option.some.inj interaction

theorem CanPair.again (same : after.items.map Item.fixed = before.items.map Item.fixed)
    {target : String} {item other : Item} {i j : Interaction}
    (first : before.CanPair target item i) (second : after.CanPair target other j) :
    other.name = item.name ∧ j = i := by
  have name := Item.name_of_fixed (fixed_of_item? same first.found second.found)
  exact ⟨name, first.interaction_of_name same second name⟩

theorem actDeed?_again (same : after.items.map Item.fixed = before.items.map Item.fixed)
    {target action : String} {first second : Deed}
    (once : before.actDeed? target action = some first)
    (again : after.actDeed? target action = some second) : second = first := by
  obtain ⟨item, i, can, rfl⟩ := actDeed?_eq_some.mp once
  obtain ⟨other, j, canAgain, rfl⟩ := actDeed?_eq_some.mp again
  obtain ⟨name, rfl⟩ := can.again same canAgain
  rw [name]

theorem useDeed?_again (same : after.items.map Item.fixed = before.items.map Item.fixed)
    {targets : List String} {first second : Deed} (once : before.useDeed? targets = some first)
    (again : after.useDeed? targets = some second) : second = first := by
  match targets with
  | [] => contradiction
  | [target] => exact actDeed?_again same once again
  | target :: other :: more =>
      obtain ⟨item, partner, i, j, can, canOther, rfl⟩ := useDeed?_eq_some.mp once
      obtain ⟨_, _, _, _, canAgain, canOtherAgain, rfl⟩ := useDeed?_eq_some.mp again
      obtain ⟨name, rfl⟩ := can.again same canAgain
      obtain ⟨partnerName, rfl⟩ := canOther.again same canOtherAgain
      rw [name, partnerName]

theorem deed?_again (same : after.items.map Item.fixed = before.items.map Item.fixed)
    {intent : Intent} {first second : Deed} (once : before.deed? intent = some first)
    (again : after.deed? intent = some second) : second = first := by
  unfold deed? at once again
  by_cases used : intent.action = .use
  · rw [if_pos used] at once again
    exact useDeed?_again same once again
  · rw [if_neg used] at once again
    cases key : intent.action.key? with
    | none => simp [key] at once
    | some action =>
        cases primary : intent.primaryTarget? with
        | none => simp [key, primary] at once
        | some target =>
            simp only [key, primary] at once again
            exact actDeed?_again same once again

end Again

/-- If the request succeeds and at once succeeds again, then the second time it says the same and
leaves the world as it is. -/
def Settles (w : World) (request : World → Outcome World) : Prop :=
  (request w).response.status = .success →
    (request (request w).state).response.status = .success →
      request (request w).state = request w

/-- A request that is refused or carries out a deed, of which it is always the same one. -/
structure Demands (request : World → Outcome World) (deed? : World → Option Deed) : Prop where
  answers : ∀ w, (deed? w = none ∧ ∃ text, request w = w.refuse text) ∨
    ∃ deed, deed? w = some deed ∧ request w = w.carryOutDeed deed
  again : ∀ {before after : World} {first second : Deed},
    after.items.map Item.fixed = before.items.map Item.fixed →
      deed? before = some first → deed? after = some second → second = first

namespace Demands

variable {request : World → Outcome World} {deed? : World → Option Deed}

theorem of_success (demands : Demands request deed?) {w : World}
    (success : (request w).response.status = .success) :
    ∃ deed, deed? w = some deed ∧ request w = w.carryOutDeed deed := by
  rcases demands.answers w with ⟨_, text, refused⟩ | does
  · rw [refused] at success
    contradiction
  · exact does

/-- Asked again at once, it carries out the same deed, also if the world is put in order after
each deed in a way that the deed does not undo. -/
theorem settles (demands : Demands request deed?) (finish : World → World)
    (kept : ∀ v, (finish v).items = v.items)
    (settled : ∀ (v : World) (deed : Deed),
      finish ((finish (v.carryOutDeed deed).state).carryOutDeed deed).state =
        finish (v.carryOutDeed deed).state) (w : World) :
    w.Settles fun v => ⟨finish (request v).state, (request v).response⟩ := by
  intro once again
  obtain ⟨deed, doing, done⟩ := demands.of_success once
  have same : (finish (request w).state).items.map Item.fixed = w.items.map Item.fixed := by
    rw [kept, done, fixed_carryOutDeed]
  obtain ⟨other, doingAgain, doneAgain⟩ := demands.of_success again
  rw [demands.again same doing doingAgain] at doneAgain
  simp only [done] at doneAgain ⊢
  rw [doneAgain, settled, response_carryOutDeed w]

end Demands

theorem demands_act (target action : String) :
    Demands (·.act target action) (·.actDeed? target action) :=
  ⟨fun w => w.act_eq target action, fun same => actDeed?_again same⟩

theorem demands_use (targets : List String) : Demands (·.use targets) (·.useDeed? targets) :=
  ⟨fun w => w.use_eq targets, fun same => useDeed?_again same⟩

theorem demands_intent (intent : Intent) :
    Demands (·.carryOutInteraction intent) (·.deed? intent) :=
  ⟨fun w => w.carryOutInteraction_eq intent, fun same => deed?_again same⟩

/-- A single action on an item, the use of items with each other and any intent of these, with the
check for victory that comes after it: if it succeeds and then succeeds again, the second time it
says the same and leaves the world exactly as it is. -/
theorem repeating_changes_nothing (w : World) :
    (∀ target action, w.Settles (·.act target action)) ∧
      (∀ targets, w.Settles (·.use targets)) ∧
      ∀ intent, w.Settles fun v =>
        ⟨(v.carryOutInteraction intent).state.checkVictory,
          (v.carryOutInteraction intent).response⟩ := by
  refine ⟨?_, ?_, ?_⟩
  · intro target action
    exact (demands_act target action).settles id (fun _ => rfl) state_again w
  · intro targets
    exact (demands_use targets).settles id (fun _ => rfl) state_again w
  · intro intent
    have kept : ∀ v : World, v.checkVictory.items = v.items := by
      intro v
      rcases v.checkVictory_cases with still | won
      · rw [still]
      · rw [won]
    exact (demands_intent intent).settles checkVictory kept checkVictory_again w

end World

namespace PickleQuest

/-- The player in the kitchen, with the fork and the pickle jar. -/
def forkInKitchen : World :=
  { forkAndJar.world with player := { forkAndJar.world.player with location := "kitchen" } }

theorem drawer_and_fork_settle :
    let opened := forkInKitchen.act "drawer" "open"
    let used := forkInKitchen.use ["fork", "utensil"]
    let intent : Intent := ⟨.use, [some "fork", some "fork"]⟩
    let checked := (forkInKitchen.carryOutInteraction intent).state.checkVictory
    (opened.response.status = .success ∧
        (opened.state.act "drawer" "open").response.status = .success ∧
        opened.state.act "drawer" "open" = opened) ∧
      (used.response.status = .success ∧
        (used.state.use ["fork", "utensil"]).response.status = .success ∧
        used.state.use ["fork", "utensil"] = used) ∧
      (forkInKitchen.carryOutInteraction intent).response.status = .success ∧
      (checked.carryOutInteraction intent).response.status = .success ∧
      (checked.carryOutInteraction intent).state.checkVictory = checked := by
  intro opened used intent checked
  have facts : (opened.response.status = .success ∧
        (opened.state.act "drawer" "open").response.status = .success) ∧
      (used.response.status = .success ∧
        (used.state.use ["fork", "utensil"]).response.status = .success) ∧
      (forkInKitchen.carryOutInteraction intent).response.status = .success ∧
      (checked.carryOutInteraction intent).response.status = .success := by
    decide +kernel
  obtain ⟨⟨opens, opensAgain⟩, ⟨uses, usesAgain⟩, acts, actsAgain⟩ := facts
  obtain ⟨alone, together, asked⟩ := forkInKitchen.repeating_changes_nothing
  have settled := asked intent acts actsAgain
  exact ⟨⟨opens, opensAgain, alone "drawer" "open" opens opensAgain⟩,
    ⟨uses, usesAgain, together ["fork", "utensil"] uses usesAgain⟩, acts, actsAgain,
    congrArg Outcome.state settled⟩

end PickleQuest

/-! ## The other way round -/

namespace World

/-- Two targets can be used together exactly if they can the other way round; and if their items
have the same transforms, both ways leave the same world. -/
theorem paired_use_is_symmetric (w : World) (target other : String) (more rest : List String) :
    ((w.use (target :: other :: more)).response.status = .success ↔
      (w.use (other :: target :: rest)).response.status = .success) ∧
    ∀ first second i j, w.CanPair target first i → w.CanPair other second j →
      i.transforms = j.transforms →
        (w.use (target :: other :: more)).state = (w.use (other :: target :: rest)).state := by
  constructor
  · rw [use_success_iff, use_success_iff]
    constructor
    · rintro ⟨first, second, i, j, can, canOther⟩
      exact ⟨second, first, j, i, canOther, can⟩
    · rintro ⟨second, first, j, i, canOther, can⟩
      exact ⟨first, second, i, j, can, canOther⟩
  · intro first second i j can canOther transforms
    have itself : first.name = second.name → i = j := canOther.interaction_of_name rfl can
    have alike := Deed.revision_swapped transforms itself
    have state := w.carryOutDeed_state (.paired first.name second.name i j)
    have swapped := w.carryOutDeed_state (.paired second.name first.name j i)
    rw [alike.apply_eq, ← swapped] at state
    rw [use_of_canPair can canOther, use_of_canPair canOther can]
    exact state

end World

namespace PickleQuest

theorem fork_and_jar_either_way :
    (forkInKitchen.use ["fork", "pickle jar"]).response.status = .success ∧
      (forkInKitchen.use ["pickle jar", "fork"]).response.status = .success ∧
      (forkInKitchen.use ["fork", "pickle jar"]).state =
        (forkInKitchen.use ["pickle jar", "fork"]).state := by
  have facts : (forkInKitchen.use ["fork", "pickle jar"]).response.status = .success ∧
      (forkInKitchen.useDeed? ["fork", "pickle jar"]).map Deed.transforms =
        some [⟨some "pickle jar", some "pickle"⟩] ∧
      (forkInKitchen.useDeed? ["pickle jar", "fork"]).map Deed.transforms =
        some [⟨some "pickle jar", some "pickle"⟩] := by
    decide +kernel
  obtain ⟨success, doing, doingSwapped⟩ := facts
  obtain ⟨swap, states⟩ := forkInKitchen.paired_use_is_symmetric "fork" "pickle jar" [] []
  obtain ⟨first, second, i, j, can, canOther⟩ := World.use_success_iff.mp success
  rw [World.useDeed?_eq_some.mpr ⟨first, second, i, j, can, canOther, rfl⟩] at doing
  rw [World.useDeed?_eq_some.mpr ⟨second, first, j, i, canOther, can, rfl⟩] at doingSwapped
  have transforms : i.transforms = j.transforms :=
    (Option.some.inj doing).trans (Option.some.inj doingSwapped).symm
  exact ⟨success, swap.mp success, states first second i j can canOther transforms⟩

end PickleQuest

end TextAdventure
