import TextAdventure.Proofs.Pairing
import TextAdventure.Proofs.Rejection

/-!
# What it takes to act on items

An intent does something with items exactly if each of its targets names an item that can be acted
on: one that is within reach, lists the action and has within reach what the action requires, and is
carried if it can be.
-/

set_option autoImplicit false

namespace TextAdventure

namespace Intent

/-- The targets that an intent acts on, each with the key of what is to be done to it. -/
def attempts (intent : Intent) : List (String × String) :=
  if intent.action = .use then
    match intent.presentTargets with
    | [] => []
    | [target] => [(target, "use")]
    | target :: other :: _ => [(target, World.pairedUse), (other, World.pairedUse)]
  else
    match intent.action.key?, intent.primaryTarget? with
    | some key, some target => [(target, key)]
    | _, _ => []

theorem interaction_of_attempts {intent : Intent} (tries : intent.attempts ≠ []) :
    intent.action.group? = some .interaction := by
  unfold attempts at tries
  cases action : intent.action <;> simp_all [Action.key?, Action.group?]

end Intent

namespace World

structure Reaches (w : World) (item : Item) : Prop where
  place : item.name ∈ w.player.inventory ∨ item.name ∈ w.lyingHere
  known : item.discovered = true ∨ item.collectible = false

/-- A target can be acted on in one way, as this item and with this interaction. -/
structure CanAct (w : World) (target action : String) (item : Item) (i : Interaction) : Prop where
  found : w.item? target = some item
  reach : w.Reaches item
  held : item.collectible = true → item.name ∈ w.player.inventory
  lists : item.interaction? action = some i
  requires : ∀ name ∈ i.requires, ∃ other, w.item? name = some other ∧ w.Reaches other

variable {w : World}

theorem holds_iff {name : String} : w.player.holds name = true ↔ name ∈ w.player.inventory := by
  rw [Player.holds, List.contains_iff_mem]

theorem reaches_iff {item : Item} :
    w.Reaches item ↔ w.nearby item.name = true ∧ item.known = true := by
  rw [nearby, inRoom, Bool.or_eq_true, holds_iff, List.contains_iff_mem, Item.known,
    Bool.or_eq_true, Bool.not_eq_true']
  constructor
  · intro reach
    exact ⟨reach.place, reach.known⟩
  · rintro ⟨place, known⟩
    exact ⟨place, known⟩

theorem meets_iff {i : Interaction} : w.meets i = true ↔
    ∀ name ∈ i.requires, ∃ other, w.item? name = some other ∧ w.Reaches other := by
  rw [meets, List.all_eq_true]
  refine forall₂_congr fun name _ => ?_
  cases w.item? name with
  | none => simp
  | some item => simp [reaches_iff]

theorem usable?_eq_some {item : Item} {action : String} {i : Interaction} :
    w.usable? item action = some i ↔
      item.interaction? action = some i ∧ w.meets i = true ∧
        (item.collectible = true → w.player.holds item.name = true) := by
  rw [usable?, Option.filter_eq_some_iff]
  grind

theorem actDeed?_eq_some {target action : String} {deed : Deed} :
    w.actDeed? target action = some deed ↔
      ∃ item i, w.CanAct target action item i ∧ deed = .single item.name action i := by
  cases found : w.item? target with
  | none =>
      refine iff_of_false (by simp [actDeed?, found]) ?_
      rintro ⟨item, i, can, _⟩
      rw [can.found] at found
      contradiction
  | some item =>
      constructor
      · intro doing
        simp only [actDeed?, found] at doing
        split at doing
        · rename_i reach
          obtain ⟨i, usable, same⟩ := Option.map_eq_some_iff.mp doing
          obtain ⟨lists, met, held⟩ := usable?_eq_some.mp usable
          exact ⟨item, i, ⟨found, reaches_iff.mpr (by simpa using reach),
            fun collectible => holds_iff.mp (held collectible), lists, meets_iff.mp met⟩, same.symm⟩
        · contradiction
      · rintro ⟨other, i, can, rfl⟩
        have same : item = other := Option.some.inj (found.symm.trans can.found)
        subst same
        have usable : w.usable? item action = some i :=
          usable?_eq_some.mpr ⟨can.lists, meets_iff.mpr can.requires,
            fun collectible => holds_iff.mpr (can.held collectible)⟩
        simp [actDeed?, found, reaches_iff.mp can.reach, usable]

theorem act_of_canAct {target action : String} {item : Item} {i : Interaction}
    (can : w.CanAct target action item i) :
    w.act target action = w.carryOutDeed (.single item.name action i) := by
  have doing : w.actDeed? target action = some (.single item.name action i) :=
    actDeed?_eq_some.mpr ⟨item, i, can, rfl⟩
  rcases w.act_eq target action with ⟨idle, _⟩ | ⟨deed, does, done⟩
  · rw [doing] at idle
    contradiction
  · rw [doing] at does
    rw [done, Option.some.inj does]

theorem act_success_iff {target action : String} :
    (w.act target action).response.status = .success ↔
      ∃ item i, w.CanAct target action item i := by
  rcases w.act_eq target action with ⟨idle, text, refused⟩ | ⟨deed, doing, done⟩
  · rw [refused]
    refine iff_of_false (fun told => Status.noConfusion told) ?_
    rintro ⟨item, i, can⟩
    have doing := actDeed?_eq_some.mpr ⟨item, i, can, rfl⟩
    rw [idle] at doing
    contradiction
  · obtain ⟨item, i, can, rfl⟩ := actDeed?_eq_some.mp doing
    rw [done]
    exact iff_of_true rfl ⟨item, i, can⟩

/-! ## Intents -/

/-- What an intent does with items: it acts on the one that its target names, or uses the two that
its first two targets name. -/
inductive Does (w : World) (intent : Intent) : Deed → Prop
  | alone {target action : String} {item : Item} {i : Interaction}
      (asked : intent.attempts = [(target, action)]) (can : w.CanAct target action item i) :
      Does w intent (.single item.name action i)
  | paired {target other : String} {first second : Item} {i j : Interaction}
      (asked : intent.attempts = [(target, pairedUse), (other, pairedUse)])
      (can : w.CanPair target first i) (canOther : w.CanPair other second j) :
      Does w intent (.paired first.name second.name i j)

theorem deed?_cases (w : World) (intent : Intent) :
    (intent.attempts = [] ∧ w.deed? intent = none) ∨
    (∃ target action, intent.attempts = [(target, action)] ∧
      w.deed? intent = w.actDeed? target action) ∨
    ∃ target other more, intent.attempts = [(target, pairedUse), (other, pairedUse)] ∧
      w.deed? intent = w.useDeed? (target :: other :: more) := by
  unfold Intent.attempts deed?
  by_cases used : intent.action = .use
  · rw [if_pos used, if_pos used]
    match intent.presentTargets with
    | [] => exact Or.inl ⟨rfl, rfl⟩
    | [target] => exact Or.inr (Or.inl ⟨target, "use", rfl, rfl⟩)
    | target :: other :: more => exact Or.inr (Or.inr ⟨target, other, more, rfl, rfl⟩)
  · rw [if_neg used, if_neg used]
    cases intent.action.key? with
    | none => exact Or.inl ⟨rfl, rfl⟩
    | some key =>
        cases intent.primaryTarget? with
        | none => exact Or.inl ⟨rfl, rfl⟩
        | some target => exact Or.inr (Or.inl ⟨target, key, rfl, rfl⟩)

theorem useDeed?_eq_some {target other : String} {more : List String} {deed : Deed} :
    w.useDeed? (target :: other :: more) = some deed ↔
      ∃ first second i j, w.CanPair target first i ∧ w.CanPair other second j ∧
        deed = .paired first.name second.name i j := by
  cases paired : w.pairing target other with
  | error reason =>
      refine iff_of_false (by simp [useDeed?, paired]) ?_
      rintro ⟨first, second, i, j, can, canOther, _⟩
      have done := pairing_eq_ok.mpr ⟨first, second, i, j, can, canOther, rfl⟩
      rw [paired] at done
      contradiction
  | ok pair =>
      constructor
      · intro doing
        obtain ⟨first, second, i, j, can, canOther, rfl⟩ := pairing_eq_ok.mp paired
        have same : deed = .paired first.name second.name i j := by
          simpa [useDeed?, paired, eq_comm] using doing
        exact ⟨first, second, i, j, can, canOther, same⟩
      · rintro ⟨first, second, i, j, can, canOther, rfl⟩
        have done := pairing_eq_ok.mpr ⟨first, second, i, j, can, canOther, rfl⟩
        simp [useDeed?, done]

theorem deed?_eq_some {intent : Intent} {deed : Deed} :
    w.deed? intent = some deed ↔ w.Does intent deed := by
  rcases w.deed?_cases intent with ⟨idle, none_⟩ | ⟨target, action, asked, acts⟩ |
    ⟨target, other, more, asked, uses⟩
  · rw [none_]
    refine iff_of_false (fun some_ => nomatch some_) ?_
    rintro (⟨asked, _⟩ | ⟨asked, _, _⟩) <;> rw [idle] at asked <;> contradiction
  · rw [acts, actDeed?_eq_some]
    constructor
    · rintro ⟨item, i, can, rfl⟩
      exact .alone asked can
    · rintro (⟨askedToo, can⟩ | ⟨askedToo, _, _⟩)
      · rw [asked] at askedToo
        cases askedToo
        exact ⟨_, _, can, rfl⟩
      · rw [asked] at askedToo
        cases askedToo
  · rw [uses, useDeed?_eq_some]
    constructor
    · rintro ⟨first, second, i, j, can, canOther, rfl⟩
      exact .paired asked can canOther
    · rintro (⟨askedToo, _⟩ | ⟨askedToo, can, canOther⟩)
      · rw [asked] at askedToo
        cases askedToo
      · rw [asked] at askedToo
        cases askedToo
        exact ⟨_, _, _, _, can, canOther, rfl⟩

theorem interaction_success_iff (w : World) (intent : Intent) :
    (w.carryOutInteraction intent).response.status = .success ↔ ∃ deed, w.Does intent deed := by
  rcases w.carryOutInteraction_eq intent with ⟨idle, text, refused⟩ | ⟨deed, doing, done⟩
  · rw [refused]
    refine iff_of_false (fun told => Status.noConfusion told) ?_
    rintro ⟨deed, does⟩
    rw [deed?_eq_some.mpr does] at idle
    contradiction
  · rw [done]
    exact iff_of_true (w.status_carryOutDeed deed) ⟨deed, deed?_eq_some.mp doing⟩

end World

end TextAdventure
