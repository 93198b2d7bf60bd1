import TextAdventure.Proofs.Checkpoint
import TextAdventure.Proofs.Holdings

/-!
# When each item is held once

Taking and dropping never put an item where it is already.  Making one does, if it lies in another
room, since only what is at hand is searched for the old copy.  A run keeps each item held once
exactly if nothing is made of which a copy lies elsewhere, and each loaded world is of that kind.
-/

set_option autoImplicit false

namespace TextAdventure

open Transform

/-! ## Moved and made names -/

theorem nodup_pickedUp {carried here elsewhere : List String} {name : String}
    (once : (carried ++ (here ++ elsewhere)).Nodup) (lying : name ∈ here) :
    (addName name carried ++ (removeName name here ++ elsewhere)).Nodup := by
  simp only [List.nodup_append, List.mem_append] at once
  obtain ⟨carriedOnce, ⟨hereOnce, elsewhereOnce, apart⟩, away⟩ := once
  have free : name ∉ carried := fun held => away name held name (Or.inl lying) rfl
  have placed : addName name carried = carried ++ [name] := by simp [addName, free]
  have removed : (removeName name here).Nodup := hereOnce.filter _
  rw [placed]
  simp only [List.nodup_append, List.mem_append, List.mem_singleton, removeName, List.mem_filter]
  grind

theorem nodup_putDown {carried here elsewhere : List String} {name : String}
    (once : (carried ++ (here ++ elsewhere)).Nodup) (held : name ∈ carried) :
    (removeName name carried ++ (addName name here ++ elsewhere)).Nodup := by
  simp only [List.nodup_append, List.mem_append] at once
  obtain ⟨carriedOnce, ⟨hereOnce, elsewhereOnce, apart⟩, away⟩ := once
  have free : name ∉ here := fun lying => away name held name (Or.inl lying) rfl
  have placed : addName name here = here ++ [name] := by simp [addName, free]
  have removed : (removeName name carried).Nodup := carriedOnce.filter _
  rw [placed]
  simp only [List.nodup_append, List.mem_append, List.mem_singleton, removeName, List.mem_filter]
  grind

theorem nodup_madeBy (ts : List Transform) : (madeBy ts).Nodup := by
  have grows : ∀ carried : List String, carried.Nodup → (ts.foldl carriedAfter carried).Nodup := by
    induction ts with
    | nil => exact fun _ once => once
    | cons t rest ih =>
        intro carried once
        refine ih _ ?_
        have kept : (withoutNames t.mentions carried).Nodup := once.filter _
        cases made : t.result with
        | none => simpa [carriedAfter, made] using kept
        | some name =>
            have gone : name ∉ withoutNames t.mentions carried := by
              simp [withoutNames, mentions, made]
            simp only [carriedAfter, made, List.nodup_append]
            grind
  exact grows [] List.nodup_nil

/-- What is carried after some transforms was carried before, or one of them made it. -/
theorem mem_foldl_carriedAfter {ts : List Transform} {carried : List String} {name : String}
    (member : name ∈ ts.foldl carriedAfter carried) :
    name ∈ carried ∨ ∃ t ∈ ts, t.result = some name := by
  induction ts generalizing carried with
  | nil => exact Or.inl member
  | cons t rest ih =>
      rcases ih member with before | ⟨other, listed, result⟩
      · simp only [carriedAfter, withoutNames, List.mem_append, List.mem_filter] at before
        rcases before with ⟨old, _⟩ | result
        · exact Or.inl old
        · exact Or.inr ⟨t, List.mem_cons_self, Option.mem_toList.mp result⟩
      · exact Or.inr ⟨other, List.mem_cons_of_mem _ listed, result⟩

theorem result_of_madeBy {ts : List Transform} {name : String} (made : name ∈ madeBy ts) :
    ∃ t ∈ ts, t.result = some name :=
  (mem_foldl_carriedAfter made).resolve_left List.not_mem_nil

theorem mem_mentions_of_result {ts : List Transform} {t : Transform} {name : String}
    (listed : t ∈ ts) (result : t.result = some name) : name ∈ ts.flatMap mentions :=
  List.mem_flatMap.mpr ⟨t, listed, by simp [mentions, result]⟩

theorem mem_mentions_of_madeBy {ts : List Transform} {name : String} (made : name ∈ madeBy ts) :
    name ∈ ts.flatMap mentions := by
  obtain ⟨t, listed, result⟩ := result_of_madeBy made
  exact mem_mentions_of_result listed result

theorem nodup_made {carried here elsewhere : List String}
    (once : (carried ++ (here ++ elsewhere)).Nodup) (ts : List Transform) :
    ((withoutNames (ts.flatMap mentions) carried ++ madeBy ts) ++
        (withoutNames (ts.flatMap mentions) here ++ elsewhere)).Nodup ↔
      ∀ name ∈ madeBy ts, name ∉ elsewhere := by
  simp only [List.nodup_append, List.mem_append] at once
  obtain ⟨carriedOnce, ⟨hereOnce, elsewhereOnce, apart⟩, away⟩ := once
  have carriedKept : (withoutNames (ts.flatMap mentions) carried).Nodup := carriedOnce.filter _
  have hereKept : (withoutNames (ts.flatMap mentions) here).Nodup := hereOnce.filter _
  have made := nodup_madeBy ts
  have mentioned : ∀ name ∈ madeBy ts, name ∈ ts.flatMap mentions :=
    fun _ => mem_mentions_of_madeBy
  -- Made names are mentioned, so what is kept at hand has none of them; only the other rooms may.
  simp only [List.nodup_append, List.mem_append, mem_withoutNames]
  constructor
  · intro unique name making lying
    exact unique.2.2 name (Or.inr making) name (Or.inr lying) rfl
  · intro fresh
    grind

namespace World

theorem heldOnce_pickUp {w : World} (once : w.HeldOnce) {name : String}
    (lying : w.inRoom name = true) : (w.pickUp name).HeldOnce := by
  rw [heldOnce_iff, holdings_pickUp]
  exact nodup_pickedUp (w.heldOnce_iff.mp once) (List.contains_iff_mem.mp lying)

theorem heldOnce_putDown {w : World} (once : w.HeldOnce) {room : Room}
    (inside : w.currentRoom? = some room) {name : String} (carried : w.player.holds name = true) :
    (w.putDown name).HeldOnce := by
  rw [heldOnce_iff, holdings_putDown inside]
  exact nodup_putDown (w.heldOnce_iff.mp once) (List.contains_iff_mem.mp carried)

/-- A deed keeps each item held once exactly if it makes none that lies in another room. -/
theorem heldOnce_carryOutDeed {w : World} (once : w.HeldOnce) (deed : Deed) :
    (w.carryOutDeed deed).state.HeldOnce ↔
      ∀ name ∈ madeBy deed.transforms, name ∉ w.elsewhere := by
  rw [heldOnce_iff, holdings_carryOutDeed]
  exact nodup_made (w.heldOnce_iff.mp once) deed.transforms

theorem heldOnce_checkVictory (w : World) : w.checkVictory.HeldOnce ↔ w.HeldOnce := by
  rcases w.checkVictory_cases with same | won
  · rw [same]
  · rw [won]
    exact heldOnce_congr rfl rfl

end World

/-! ## Events -/

namespace Game

/-- A loaded world holds each item once, and nothing is made of which a copy lies in another
room. -/
def Orderly (g : Game) (request? : Option Request) (deed? : Option Deed) : Prop :=
  (∀ w ∈ g.loaded? request?, w.HeldOnce) ∧
    ∀ deed ∈ deed?, ∀ name ∈ madeBy deed.transforms, name ∉ g.world.elsewhere

instance (g : Game) (request? : Option Request) (deed? : Option Deed) :
    Decidable (g.Orderly request? deed?) := by
  unfold Orderly
  infer_instance

theorem orderly_of_idle (g : Game) {request? : Option Request} {deed? : Option Deed}
    (idle : deed? = none) (loadless : g.loaded? request? = none) : g.Orderly request? deed? := by
  rw [Orderly, idle, loadless]
  exact ⟨fun _ listed => (nomatch listed), fun _ listed => (nomatch listed)⟩

/-- No intent both asks something of the files and does something with items. -/
theorem idle_or_quiet (w : World) (intent : Intent) :
    w.deed? intent = none ∨ intent.request? = none := by
  by_cases group : intent.action.group? = some .interaction
  · exact Or.inr (request?_eq_none (by simp [group]))
  · exact Or.inl (World.deed?_eq_none group)

/-- An action that neither asks anything of the files nor does anything with items is orderly. -/
theorem orderly_of_action (g : Game) {intent : Intent} {action : Action}
    (same : intent.action = action)
    (other : action.group? ≠ some .interaction ∧ Intent.request? ⟨action, []⟩ = none) :
    g.Orderly intent.request? (g.world.deed? intent) := by
  have idle : g.world.deed? intent = none := World.deed?_eq_none (same ▸ other.1)
  have quiet : intent.request? = none := by
    rw [← same] at other
    exact other.2
  exact g.orderly_of_idle idle (by rw [quiet]; rfl)

theorem heldOnce_save {g : Game} : g.save.1.world.HeldOnce ↔ g.world.HeldOnce := by
  rcases g.save_cases with ⟨files, _, saved⟩ | ⟨files, error, _, failed⟩
  · rw [saved]
    exact World.heldOnce_congr rfl rfl
  · rw [failed]

theorem heldOnce_load {g : Game} (once : g.world.HeldOnce) (mode : LoadMode) :
    (g.after (.load mode)).world.HeldOnce ↔ g.Orderly (some (.load mode)) none := by
  rcases g.load_cases mode with ⟨w, _, loaded⟩ | ⟨error, _, failed⟩
  · simp [after, Orderly, loaded?, serve?, loaded, Except.toOption, withWorld]
  · simp [after, Orderly, loaded?, serve?, failed, Except.toOption, once]

theorem Effect.heldOnce {g : Game} {intent : Intent} {outcome : Outcome Game}
    (effect : g.Effect intent outcome) (once : g.world.HeldOnce) :
    outcome.state.world.HeldOnce ↔ g.Orderly intent.request? (g.world.deed? intent) := by
  cases effect with
  | told r idle quiet => exact iff_of_true once (g.orderly_of_idle idle (by rw [quiet]; rfl))
  | left action => exact iff_of_true once (g.orderly_of_action action (by decide))
  | paced speed r action success => exact iff_of_true once (g.orderly_of_action action (by decide))
  | hinted action =>
      refine iff_of_true ?_ (g.orderly_of_action action (by decide))
      rw [hint_state]
      exact (World.heldOnce_congr rfl rfl).mpr once
  | saved asked =>
      have idle := (idle_or_quiet g.world intent).resolve_right (by simp [asked])
      rw [asked, saveCommand_state]
      exact iff_of_true (heldOnce_save.mpr once) (g.orderly_of_idle idle rfl)
  | loaded mode asked =>
      have idle := (idle_or_quiet g.world intent).resolve_right (by simp [asked])
      rw [idle, asked, loadCommand_state]
      exact heldOnce_load once mode
  | walked destination r action can success =>
      have kept := (World.heldOnce_congr (w := g.world) rfl rfl).mpr once
      exact iff_of_true kept (g.orderly_of_action action (by decide))
  | took item r action can success =>
      have kept := World.heldOnce_pickUp once can.here
      exact iff_of_true kept (g.orderly_of_action action (by decide))
  | dropped item r action can success =>
      obtain ⟨room, inside⟩ := can.room
      have kept := World.heldOnce_putDown once inside can.held
      exact iff_of_true kept (g.orderly_of_action action (by decide))
  | did deed doing =>
      have quiet := (idle_or_quiet g.world intent).resolve_left (by simp [doing])
      have moved := World.heldOnce_carryOutDeed once deed
      rw [quiet, doing]
      simpa [Orderly, loaded?, inWorld, withWorld] using moved

theorem orderly_asked (g : Game) (dialogue : Dialogue) (request? : Option Request)
    (deed? : Option Deed) :
    ({ g with dialogue := dialogue } : Game).Orderly request? deed? ↔ g.Orderly request? deed? := by
  rw [Orderly, Orderly, loaded?_asked]

theorem heldOnce_line {g : Game} (once : g.world.HeldOnce) (line : String) (fromPlayer : Bool) :
    (g.after (.line line fromPlayer)).world.HeldOnce ↔
      g.Orderly (g.request? (.line line fromPlayer)) (g.deed? (.line line fromPlayer)) := by
  have asking : g.request? (.line line fromPlayer) = (g.interpret line fromPlayer).1.request? := rfl
  have doing : g.deed? (.line line fromPlayer) =
      g.world.deed? (g.interpret line fromPlayer).1 := rfl
  have interpreted := g.interpret_state line fromPlayer
  rw [after, asking, doing]
  rcases g.respond_cases line fromPlayer with ⟨silent, same⟩ | ⟨outcome, effect, same⟩
  · obtain ⟨quiet, idle⟩ := silent_idle silent g.world
    rw [same, interpreted]
    exact iff_of_true once (g.orderly_of_idle idle (by rw [quiet]; rfl))
  · rw [same]
    refine (World.heldOnce_checkVictory _).trans ?_
    rw [interpreted] at effect
    exact (effect.heldOnce once).trans (g.orderly_asked _ _ _)

theorem heldOnce_rollCredits (g : Game) : g.rollCredits.2.world.HeldOnce ↔ g.world.HeldOnce := by
  rcases g.rollCredits_cases with still | rolled
  · rw [still]
  · rw [rolled]
    exact World.heldOnce_congr rfl rfl

/-- An event keeps each item held once exactly if it is orderly. -/
theorem heldOnce_after {g : Game} (once : g.world.HeldOnce) (event : Event) :
    (g.after event).world.HeldOnce ↔ g.Orderly (g.request? event) (g.deed? event) := by
  cases event with
  | line line fromPlayer => exact heldOnce_line once line fromPlayer
  | turn line =>
      rw [after_turn]
      exact (heldOnce_rollCredits _).trans (heldOnce_line once line true)
  | save => exact iff_of_true (heldOnce_save.mpr once) (g.orderly_of_idle rfl rfl)
  | load mode => exact heldOnce_load once mode
  | closing =>
      have loadless : g.loaded? (g.request? .closing) = none := by
        simp only [request?]
        split <;> rfl
      refine iff_of_true ?_ (g.orderly_of_idle rfl loadless)
      rcases g.after_closing with ⟨_, same⟩ | ⟨_, dialogue, _, same⟩
      · rw [same]
        exact once
      · rw [same]
        split
        · exact heldOnce_save.mpr once
        · exact once

/-- Whether all events of a run are orderly. -/
def OrderlyRun (g : Game) : List Event → Prop
  | [] => True
  | event :: rest => g.Orderly (g.request? event) (g.deed? event) ∧ (g.after event).OrderlyRun rest

instance decidableOrderlyRun (g : Game) : (events : List Event) → Decidable (g.OrderlyRun events)
  | [] => inferInstanceAs (Decidable True)
  | event :: rest =>
      have := decidableOrderlyRun (g.after event) rest
      inferInstanceAs (Decidable (_ ∧ _))

/-- From a world that holds each item once, all worlds of a run do exactly if the run is orderly:
if each world that is loaded in it holds each item once, and no interaction makes an item that lies
in a room where the player is not. -/
theorem heldOnce_throughout_iff (g : Game) (start : g.world.HeldOnce) (events : List Event) :
    (∀ s ∈ g.states events, s.world.HeldOnce) ↔ g.OrderlyRun events := by
  induction events generalizing g with
  | nil => simpa [states, OrderlyRun] using start
  | cons event rest ih =>
      simp only [states, List.forall_mem_cons, OrderlyRun]
      -- Both sides need the next world to hold each item once before the rest is looked at.
      constructor
      · intro throughout
        have next := throughout.2 _ ((g.after event).self_mem_states rest)
        exact ⟨(heldOnce_after start event).mp next, (ih _ next).mp throughout.2⟩
      · intro orderly
        have next := (heldOnce_after start event).mpr orderly.1
        exact ⟨start, (ih _ next).mpr orderly.2⟩

end Game

namespace PickleQuest

/-- The drawer yields the flashlight, which is then put down in another room. -/
def drawerRun : List Event :=
  ["go north", "open drawer", "go south", "drop flashlight", "go north"].map (.line · true)

theorem drawerRun_holds_once :
    game.world.HeldOnce ∧ ∀ s ∈ game.states drawerRun, s.world.HeldOnce :=
  have start : game.world.HeldOnce := by decide +kernel
  ⟨start, (game.heldOnce_throughout_iff start drawerRun).mpr (by decide +kernel)⟩

/-- When the drawer is opened again, the flashlight is carried and lies in the entry. -/
theorem flashlight_held_twice :
    ∃ loaded, game.save.1.load .resume = .ok loaded ∧ loaded.world.HeldOnce ∧
      ¬ (loaded.run (drawerRun ++ [.line "open drawer" true])).world.HeldOnce := by
  have read := Game.read_after_save (g := game) (by decide +kernel) (by decide +kernel)
  have same : game.world.persisted = world := rfl
  rw [same] at read
  exact ⟨_, Game.load_of_read read, by decide +kernel, by decide +kernel⟩

end PickleQuest

end TextAdventure
