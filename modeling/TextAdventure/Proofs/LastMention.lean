import Mathlib.Data.List.Dedup
import TextAdventure.Proofs.Acting
import TextAdventure.Proofs.Custody
import TextAdventure.Proofs.Revision

/-!
# The last mention of a name counts

Transforms are applied one after another, and later ones may use up or make again what earlier ones
made.  In the end each name goes by its last mention: it is carried if that is as a result, and gone
from everything at hand if it is as a source.  Other rooms are not looked into, so what lies there
is used up and stays.
-/

set_option autoImplicit false

namespace TextAdventure

/-- What a transform makes of a name that it mentions. -/
inductive Role where
  | source
  | result
deriving DecidableEq

/-! ## Mentions -/

namespace Role

/-- The role in which a name is mentioned last, if it is mentioned at all. -/
def last? (mentions : List (String × Role)) (name : String) : Option Role :=
  ((mentions.filter (·.1 == name)).getLast?).map (·.2)

/-- The names that are mentioned last as results, in the order of their last mentions. -/
def lastResults (mentions : List (String × Role)) : List String :=
  (mentions.map (·.1)).dedup.filter fun name => last? mentions name == some .result

theorem last?_cons (name other : String) (role : Role) (mentions : List (String × Role)) :
    last? ((name, role) :: mentions) other =
      (last? mentions other).or (if name = other then some role else none) := by
  by_cases same : name = other
  · cases later : (mentions.filter (·.1 == other)).getLast? <;>
      simp [last?, same, List.getLast?_cons, later]
  · simp [last?, same]

theorem last?_eq_none_iff {mentions : List (String × Role)} {name : String} :
    last? mentions name = none ↔ name ∉ mentions.map (·.1) := by
  rw [last?, Option.map_eq_none_iff, List.getLast?_eq_none_iff, List.filter_eq_nil_iff]
  constructor
  · intro missing listed
    obtain ⟨mention, member, same⟩ := List.mem_map.mp listed
    exact missing mention member (beq_iff_eq.mpr same)
  · intro unlisted mention member same
    exact unlisted (List.mem_map.mpr ⟨mention, member, beq_iff_eq.mp same⟩)

theorem last?_cons_of_mem {name other : String} {role : Role} {mentions : List (String × Role)}
    (later : other ∈ mentions.map (·.1)) :
    last? ((name, role) :: mentions) other = last? mentions other := by
  have some_ : (last? mentions other).isSome = true := by
    rw [Option.isSome_iff_ne_none]
    exact fun none_ => last?_eq_none_iff.mp none_ later
  rw [last?_cons, Option.or_of_isSome some_]

theorem lastResults_cons (name : String) (role : Role) (mentions : List (String × Role)) :
    lastResults ((name, role) :: mentions) =
      (if role = .result then withoutNames (mentions.map (·.1)) [name] else []) ++
        lastResults mentions := by
  have others : (mentions.map (·.1)).dedup.filter
      (fun other => last? ((name, role) :: mentions) other == some .result) =
        lastResults mentions := by
    apply List.filter_congr
    intro other member
    rw [last?_cons_of_mem (List.mem_dedup.mp member)]
  by_cases later : name ∈ mentions.map (·.1)
  · have hidden : withoutNames (mentions.map (·.1)) [name] = [] := by
      simpa [withoutNames] using later
    rw [lastResults, List.map_cons, List.dedup_cons_of_mem later, others, hidden, ite_self,
      List.nil_append]
  · have shown : withoutNames (mentions.map (·.1)) [name] = [name] := by
      simpa [withoutNames] using later
    have last : last? ((name, role) :: mentions) name = some role := by
      rw [last?_cons, last?_eq_none_iff.mpr later, if_pos rfl, Option.none_or]
    rw [lastResults, List.map_cons, List.dedup_cons_of_notMem later, List.filter_cons, others,
      last, shown]
    cases role <;> rfl

end Role

namespace Transform

/-- The names that a transform mentions, each in its role; the result counts as the later one. -/
def roles (t : Transform) : List (String × Role) :=
  t.source.toList.map (·, .source) ++ t.result.toList.map (·, .result)

theorem map_roles (ts : List Transform) : (ts.flatMap roles).map (·.1) = ts.flatMap mentions := by
  rw [List.map_flatMap]
  apply List.flatMap_congr
  intro t _
  simp [roles, mentions, Function.comp_def]

/-- What the transforms made in the end are the names that they mention last as results. -/
theorem madeBy_eq_lastResults (ts : List Transform) :
    madeBy ts = Role.lastResults (ts.flatMap roles) := by
  induction ts with
  | nil => rfl
  | cons t rest ih =>
      obtain ⟨source, result⟩ := t
      rw [madeBy_cons, ih, List.flatMap_cons, ← map_roles]
      cases source <;> cases result <;> simp [roles, Role.lastResults_cons, withoutNames]

/-! ## What is used up -/

/-- A transform uses up the name, and neither it nor a later one makes it. -/
def UsedUp (ts : List Transform) (name : String) : Prop :=
  ∃ before t after, ts = before ++ t :: after ∧ t.source = some name ∧
    ∀ later ∈ t :: after, later.result ≠ some name

theorem UsedUp.mentioned {ts : List Transform} {name : String} (used : UsedUp ts name) :
    name ∈ ts.flatMap mentions := by
  obtain ⟨before, t, after, rfl, source, _⟩ := used
  exact List.mem_flatMap.mpr ⟨t, by simp, by simp [mentions, source]⟩

theorem UsedUp.notMem_madeBy {ts : List Transform} {name : String} (used : UsedUp ts name) :
    name ∉ madeBy ts := by
  obtain ⟨before, t, after, rfl, source, unmade⟩ := used
  intro made
  rw [madeBy, List.foldl_append, List.foldl_cons] at made
  -- Right after the transform that uses it up it is not carried, and then nothing makes it.
  rcases mem_foldl_carriedAfter made with carried | ⟨later, listed, result⟩
  · simp only [carriedAfter, List.mem_append, mem_withoutNames, mentions, source] at carried
    rcases carried with ⟨_, unmentioned⟩ | result
    · exact unmentioned (by simp)
    · exact unmade t List.mem_cons_self (Option.mem_toList.mp result)
  · exact unmade later (List.mem_cons_of_mem t listed) result

end Transform

open Transform

namespace World

theorem revise_of_discovered (names gone made : List String) :
    ({ discovered := names, gone, made } : Revision).revise =
      fun item => { item with discovered := item.discovered || names.contains item.name } := by
  funext item
  simp [Revision.revise]

/-- After any transforms, one after another: the names that they mention are gone from everything
at hand, and the ones that they mention last as results are carried again; the item of each result
is known, if there is one; and nothing else has changed. -/
theorem transforms_in_closed_form (w : World) (ts : List Transform) :
    w.applyTransforms ts =
        { w with
          player := { w.player with
            inventory := withoutNames (ts.flatMap mentions) w.player.inventory ++
              Role.lastResults (ts.flatMap roles) }
          rooms := updateFirst (·.name == w.player.location)
            (fun room => { room with
              inventory := withoutNames (ts.flatMap mentions) room.inventory }) w.rooms
          items := updateFirsts Item.name
            (fun item => { item with
              discovered := item.discovered ||
                (ts.flatMap (·.result.toList)).contains item.name }) [] w.items } ∧
      ∀ name, (w.applyTransforms ts).record? name = (w.record? name).map fun item =>
        { item with
          discovered := item.discovered || (ts.flatMap (·.result.toList)).contains name } := by
  have whole := w.applyTransforms_eq_apply ts
  constructor
  · rw [whole, madeBy_eq_lastResults, Revision.apply, revise_of_discovered, Objective.earn_nil,
      List.map_id]
    rfl
  · intro name
    rw [whole, Revision.record?_apply, revise_of_discovered]
    cases found : w.record? name with
    | none => rfl
    | some item =>
        have named : item.name = name := by simpa using List.find?_some found
        simp [named]

/-- The pie is made twice over and the dough is used up again. -/
example :
    Role.lastResults ([⟨none, some "dough"⟩, ⟨some "apple", some "pie"⟩, ⟨none, some "crumb"⟩,
      ⟨some "dough", some "pie"⟩].flatMap Transform.roles) = ["crumb", "pie"] := by
  decide

/-- What becomes of the names that transforms use up. -/
structure Spends (before : World) (ts : List Transform) (after : World) : Prop where
  carried : ∀ name, UsedUp ts name → name ∉ after.player.inventory
  here : ∀ name, UsedUp ts name → name ∉ after.lyingHere
  elsewhere : after.elsewhere = before.elsewhere
  gone_iff : ∀ name, UsedUp ts name → (name ∉ after.held ↔ name ∉ before.elsewhere)

theorem spends_carryOutDeed (w : World) (deed : Deed) :
    w.Spends deed.transforms (w.carryOutDeed deed).state := by
  have moved := w.holdings_carryOutDeed deed
  have carried : ∀ name, UsedUp deed.transforms name →
      name ∉ (w.carryOutDeed deed).state.holdings.carried := by
    intro name used member
    rw [moved, List.mem_append, mem_withoutNames] at member
    rcases member with ⟨_, unmentioned⟩ | made
    · exact unmentioned used.mentioned
    · exact used.notMem_madeBy made
  have here : ∀ name, UsedUp deed.transforms name →
      name ∉ (w.carryOutDeed deed).state.holdings.here := by
    intro name used member
    rw [moved, mem_withoutNames] at member
    exact member.2 used.mentioned
  have elsewhere : (w.carryOutDeed deed).state.holdings.elsewhere = w.elsewhere := by
    rw [moved]
    rfl
  refine ⟨carried, here, elsewhere, ?_⟩
  intro name used
  rw [mem_held, elsewhere]
  simp [carried name used, here name used]

/-- After a success, whatever a transform has used up that neither it nor a later one makes is no
longer carried and does not lie in the current room; what lies in the other rooms is not touched, so
it is gone exactly if it did not lie there. -/
theorem used_up_is_gone_iff (w : World) :
    (∀ target action, (w.act target action).response.status = .success →
      ∃ item i, w.CanAct target action item i ∧
        w.Spends i.transforms (w.act target action).state) ∧
    ∀ target other more, (w.use (target :: other :: more)).response.status = .success →
      ∃ first second i j, w.CanPair target first i ∧ w.CanPair other second j ∧
        w.Spends i.transforms (w.use (target :: other :: more)).state := by
  constructor
  · intro target action success
    obtain ⟨item, i, can⟩ := act_success_iff.mp success
    rw [act_of_canAct can]
    exact ⟨item, i, can, w.spends_carryOutDeed (.single item.name action i)⟩
  · intro target other more success
    obtain ⟨first, second, i, j, can, canOther⟩ := use_success_iff.mp success
    rw [use_of_canPair can canOther]
    exact ⟨first, second, i, j, can, canOther,
      w.spends_carryOutDeed (.paired first.name second.name i j)⟩

end World

namespace PickleQuest

def jarInHand : World :=
  { forkAndJar.world with rooms := rooms.map (Room.without ["pickle jar"]) }

theorem usedUp_jar : UsedUp [⟨some "pickle jar", some "pickle"⟩] "pickle jar" :=
  ⟨[], _, [], rfl, rfl, by decide⟩

theorem jar_is_used_up_and_gone :
    (jarInHand.act "doormat" "clean").response.status = .success ∧
      (∃ item i, jarInHand.CanAct "doormat" "clean" item i ∧
        jarInHand.Spends i.transforms (jarInHand.act "doormat" "clean").state) ∧
      (jarInHand.use ["fork", "pickle jar"]).response.status = .success ∧
      "pickle jar" ∈ jarInHand.held ∧
      "pickle jar" ∉ (jarInHand.use ["fork", "pickle jar"]).state.held := by
  have facts : (jarInHand.act "doormat" "clean").response.status = .success ∧
      (jarInHand.use ["fork", "pickle jar"]).response.status = .success ∧
      "pickle jar" ∈ jarInHand.held ∧ "pickle jar" ∉ jarInHand.elsewhere ∧
      (jarInHand.useDeed? ["fork", "pickle jar"]).map Deed.transforms =
        some [⟨some "pickle jar", some "pickle"⟩] := by
    decide +kernel
  obtain ⟨cleaned, opened, held, near, doing⟩ := facts
  have uses := jarInHand.used_up_is_gone_iff
  obtain ⟨first, second, i, j, can, canOther, spends⟩ := uses.2 "fork" "pickle jar" [] opened
  rw [World.useDeed?_eq_some.mpr ⟨first, second, i, j, can, canOther, rfl⟩] at doing
  have transforms : i.transforms = [⟨some "pickle jar", some "pickle"⟩] := Option.some.inj doing
  rw [transforms] at spends
  exact ⟨cleaned, uses.1 "doormat" "clean" cleaned, opened, held,
    (spends.gone_iff "pickle jar" usedUp_jar).mpr near⟩

/-- Used with itself in the kitchen, the fork uses up the pickle jar, which stays in the pantry. -/
theorem jar_is_used_up_and_left :
    ∃ loaded, game.save.1.load .resume = .ok loaded ∧
      let g := loaded.run (["go north", "take fork"].map (.line · true))
      (g.interpret "use fork with utensil" true).1 = ⟨.use, [some "fork", some "fork"]⟩ ∧
        (g.respond "use fork with utensil" true).response.status = .success ∧
        "pickle jar" ∈ (g.respond "use fork with utensil" true).state.world.held ∧
        ∃ deed, g.world.useDeed? ["fork", "fork"] = some deed ∧
          UsedUp deed.transforms "pickle jar" := by
  refine ⟨_, resume_savedStart, ?_⟩
  intro g
  have facts : (g.interpret "use fork with utensil" true).1 =
        ⟨.use, [some "fork", some "fork"]⟩ ∧
      (g.respond "use fork with utensil" true).response.status = .success ∧
      "pickle jar" ∈ (g.respond "use fork with utensil" true).state.world.held ∧
      (g.world.useDeed? ["fork", "fork"]).map Deed.transforms =
        some [⟨some "pickle jar", some "pickle"⟩] := by
    decide +kernel
  obtain ⟨meant, success, lying, doing⟩ := facts
  obtain ⟨deed, does, transforms⟩ := Option.map_eq_some_iff.mp doing
  exact ⟨meant, success, lying, deed, does, transforms ▸ usedUp_jar⟩

end PickleQuest

end TextAdventure
