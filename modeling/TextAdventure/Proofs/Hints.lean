import TextAdventure.Proofs.Locality
import TextAdventure.Proofs.Progress
import TextAdventure.Proofs.Revision

/-!
# Hints come one by one

A request for a hint is about the first objective that is not complete at that moment.  Which one
this is changes back and forth, but each objective keeps a count of its own, and nothing else that
happens touches the counts.  So since a load, the count of each objective is the number of requests
that were about it (`Game.reveals_run`), and an answer depends on the whole history of them.
-/

set_option autoImplicit false

namespace TextAdventure

/-! ## One objective -/

namespace Objective

/-- So many more hints count as revealed, as far as there are hints. -/
structure Reveals (n : Nat) (before after : Objective) : Prop where
  hints : after.hints = before.hints
  -- Beyond the number of hints a count makes no difference.
  hintCount : min after.hintCount before.hints.length =
    min (before.hintCount + n) before.hints.length

theorem reveals_self (objective : Objective) : objective.Reveals 0 objective := ⟨rfl, rfl⟩

theorem Reveals.trans {m n : Nat} {before middle after : Objective}
    (early : before.Reveals m middle) (late : middle.Reveals n after) :
    before.Reveals (m + n) after := by
  have first := early.hintCount
  have second := late.hintCount
  rw [early.hints] at second
  exact ⟨late.hints.trans early.hints, by omega⟩

theorem reveals_revealHint (objective : Objective) :
    objective.Reveals 1 objective.revealHint :=
  ⟨rfl, by simp [revealHint]⟩

theorem reveals_earn (done : Performance) (objective : Objective) :
    objective.Reveals 0 (objective.earn done) := ⟨rfl, rfl⟩

/-- What one more hint shows is as long as the count allows. -/
theorem Reveals.revealedHints {n : Nat} {before after : Objective}
    (reveals : before.Reveals n after) :
    after.revealHint.revealedHints =
      before.hints.take (min (before.hintCount + n + 1) before.hints.length) := by
  have count := reveals.hintCount
  have next : min (after.hintCount + 1) before.hints.length =
      min (before.hintCount + n + 1) before.hints.length := by
    omega
  rw [Objective.revealedHints, Objective.revealHint, reveals.hints, next]

end Objective

/-! ## All objectives of a world -/

namespace World

/-- Where the first objective stands that is not complete. -/
def firstOpen? (w : World) : Option Nat :=
  w.objectives.findIdx? fun objective => !w.complete objective

theorem firstOpen?_eq_none {w : World} : w.firstOpen? = none ↔ w.allComplete = true := by
  simp [firstOpen?, allComplete]

theorem exists_of_firstOpen? (w : World) {i : Nat} (first : w.firstOpen? = some i) :
    ∃ objective, w.objectives[i]? = some objective := by
  have bounded : i < w.objectives.length := (List.findIdx?_eq_some_iff_getElem.mp first).1
  exact ⟨w.objectives[i], List.getElem?_eq_getElem bounded⟩

theorem find?_firstOpen? (w : World) :
    w.objectives.find? (fun objective => !w.complete objective) =
      w.firstOpen?.bind (w.objectives[·]?) :=
  List.find?_eq_bind_findIdx?_getElem?

/-- So many more hints count as revealed of the objective at each place. -/
def Reveals (n : Nat → Nat) (before after : World) : Prop :=
  ∀ i, Option.Rel (Objective.Reveals (n i)) before.objectives[i]? after.objectives[i]?

theorem reveals_of_same {before after : World} (same : after.objectives = before.objectives) :
    before.Reveals (fun _ => 0) after := by
  intro i
  rw [same]
  cases before.objectives[i]? with
  | none => exact .none
  | some objective => exact .some objective.reveals_self

theorem Reveals.trans {m n : Nat → Nat} {before middle after : World}
    (early : before.Reveals m middle) (late : middle.Reveals n after) :
    before.Reveals (fun i => m i + n i) after := by
  intro i
  have first := early i
  have second := late i
  generalize before.objectives[i]? = start at first ⊢
  generalize middle.objectives[i]? = between at first second
  generalize after.objectives[i]? = last at second ⊢
  cases first with
  | none =>
      cases second
      exact .none
  | some reveals =>
      cases second with
      | some later => exact .some (reveals.trans later)

theorem reveals_hint (w : World) :
    w.Reveals (fun i => if w.firstOpen? = some i then 1 else 0)
      { w with
        objectives := updateFirst (fun objective => !w.complete objective) Objective.revealHint
          w.objectives } := by
  intro i
  dsimp only
  by_cases here : w.firstOpen? = some i
  · rw [if_pos here, getElem?_updateFirst_self w.objectives here]
    cases w.objectives[i]? with
    | none => exact .none
    | some objective => exact .some objective.reveals_revealHint
  · rw [if_neg here, getElem?_updateFirst w.objectives here]
    exact reveals_of_same rfl i

theorem reveals_carryOutDeed (w : World) (deed : Deed) :
    w.Reveals (fun _ => 0) (w.carryOutDeed deed).state := by
  intro i
  have earned : (w.carryOutDeed deed).state.objectives =
      w.objectives.map (Objective.earn deed.revision.performed) := by
    rw [carryOutDeed_state]
    rfl
  rw [earned, List.getElem?_map]
  cases w.objectives[i]? with
  | none => exact .none
  | some objective => exact .some (objective.reveals_earn _)

theorem Marks.reveals {before after : World} (marks : before.Marks after) :
    before.Reveals (fun _ => 0) after := by
  obtain ⟨won, watched, dirty, _, _, rfl⟩ := marks
  exact reveals_of_same rfl

end World

namespace Game

open World

/-! ## Requests -/

def asksHint (g : Game) (event : Event) : Bool :=
  (g.intent? event).any (·.action = .hint)

/-- How often a run asks for a hint while the first objective that is not complete is the one at a
place. -/
def hintRequests (g : Game) (i : Nat) (events : List Event) : Nat :=
  (g.steps events).countP fun step => step.1.asksHint step.2 && step.1.world.firstOpen? = some i

theorem carryOut_hint {intent : Intent} (action : intent.action = .hint) (g : Game) :
    g.carryOut intent = g.hint := by
  simp only [carryOut, carryOutHousekeeping, action, Action.group?]

theorem response_hint (g : Game) :
    g.hint.response =
      match g.world.firstOpen?.bind (g.world.objectives[·]?) with
      | none => .success Reply.nothingToPonder
      | some objective => .listing Reply.hints objective.revealHint.revealedHints := by
  rw [← find?_firstOpen?]
  unfold hint
  dsimp only
  cases g.world.objectives.find? fun objective => !g.world.complete objective with
  | none => rfl
  | some objective => rfl

/-- Nothing but a hint reveals one. -/
theorem Effect.reveals {g : Game} {intent : Intent} {outcome : Outcome Game}
    (effect : g.Effect intent outcome) (other : intent.action ≠ .hint)
    (loadless : g.loaded? intent.request? = none) :
    g.world.Reveals (fun _ => 0) outcome.state.world := by
  cases effect with
  | told r idle quiet => exact reveals_of_same rfl
  | left action => exact reveals_of_same rfl
  | paced speed r action success => exact reveals_of_same rfl
  | hinted action => exact absurd action other
  | saved asked =>
      rw [saveCommand_state]
      exact g.marks_save.reveals
  | loaded mode asked =>
      rw [asked] at loadless
      rw [loadCommand_state, load_of_loadless loadless]
      exact reveals_of_same rfl
  | walked destination r action can success => exact reveals_of_same rfl
  | took item r action can success => exact reveals_of_same rfl
  | dropped item r action can success => exact reveals_of_same rfl
  | did deed doing => exact g.world.reveals_carryOutDeed deed

/-- How many more hints an event reveals of the objective at a place. -/
def hintsOf (g : Game) (event : Event) (i : Nat) : Nat :=
  if g.asksHint event && g.world.firstOpen? = some i then 1 else 0

theorem reveals_line (g : Game) (line : String) (fromPlayer : Bool)
    (loadless : g.loaded? (g.request? (.line line fromPlayer)) = none) :
    g.world.Reveals (g.hintsOf (.line line fromPlayer))
      (g.respond line fromPlayer).state.world := by
  have asks : g.asksHint (.line line fromPlayer) =
      decide ((g.interpret line fromPlayer).1.action = .hint) := rfl
  by_cases action : (g.interpret line fromPlayer).1.action = .hint
  · have counted : g.hintsOf (.line line fromPlayer) =
        fun i => if g.world.firstOpen? = some i then 1 else 0 := by
      funext i
      simp [hintsOf, asks, action]
    rw [counted, g.respond_carryOut line fromPlayer (by simp [action, Action.group?]),
      carryOut_hint action, hint_state]
    exact g.world.reveals_hint.trans (marks_checkVictory _).reveals
  · have counted : g.hintsOf (.line line fromPlayer) = fun _ => 0 := by
      funext i
      simp [hintsOf, asks, action]
    rw [counted]
    rcases g.respond_cases line fromPlayer with ⟨_, silent⟩ | ⟨outcome, effect, same⟩
    · rw [silent]
      exact reveals_of_same rfl
    · have quiet : (g.interpret line fromPlayer).2.loaded?
          (g.interpret line fromPlayer).1.request? = none := by
        rw [interpret_state, loaded?_asked]
        exact loadless
      rw [same]
      exact (effect.reveals action quiet).trans (marks_checkVictory _).reveals

theorem reveals_after (g : Game) {event : Event} (loadless : g.loaded? (g.request? event) = none) :
    g.world.Reveals (g.hintsOf event) (g.after event).world := by
  cases event with
  | line text fromPlayer => exact g.reveals_line text fromPlayer loadless
  | turn text =>
      rw [after_turn]
      exact (g.reveals_line text true loadless).trans (marks_rollCredits _).reveals
  | save => exact g.marks_save.reveals
  | load mode =>
      rw [load_of_loadless loadless]
      exact reveals_of_same rfl
  | closing => exact g.marks_closing.reveals

theorem hintRequests_cons (g : Game) (i : Nat) (event : Event) (rest : List Event) :
    g.hintRequests i (event :: rest) =
      g.hintsOf event i + (g.after event).hintRequests i rest := by
  rw [hintRequests, steps, List.countP_cons, Nat.add_comm]
  rfl

/-- Over a run, as many hints are revealed of each objective as requests were about it. -/
theorem reveals_run (events : List Event) {g : Game} (loadless : g.Loadless events) :
    g.world.Reveals (fun i => g.hintRequests i events) (g.run events).world := by
  induction events generalizing g with
  | nil => exact reveals_of_same rfl
  | cons event rest ih =>
      simp only [hintRequests_cons]
      exact (g.reveals_after loadless.1).trans (ih loadless.2)

/-! ## Answers -/

theorem reply?_of_asksHint {g : Game} {event : Event} (asks : g.asksHint event = true) :
    g.reply? event = some g.hint.response := by
  have line : ∀ text fromPlayer, (g.interpret text fromPlayer).1.action = .hint →
      (g.respond text fromPlayer).response = g.hint.response := by
    intro text fromPlayer action
    rw [g.respond_carryOut text fromPlayer (by simp [action, Action.group?]), carryOut_hint action,
      response_hint, response_hint]
    rfl
  cases event with
  | line text fromPlayer => exact congrArg some (line text fromPlayer (of_decide_eq_true asks))
  | turn text => exact congrArg some (line text true (of_decide_eq_true asks))
  | save => contradiction
  | load mode => contradiction
  | closing => contradiction

/-- In a run that follows a load, a request for a hint shows as many hints of the first objective
that is not complete as there have been requests about that one, this one included, or all of its
hints if there are fewer; and there is nothing left to ponder exactly if all objectives are
complete. -/
theorem hints_grow_one_by_one {g : Game} {event : Event} {w : World}
    (loads : g.loaded? (g.request? event) = some w) {events : List Event}
    (loadless : (g.after event).Loadless events) {request : Event}
    (asks : ((g.after event).run events).asksHint request = true) :
    let s := (g.after event).run events
    (∀ i, s.world.firstOpen? = some i → ∃ objective, w.objectives[i]? = some objective ∧
      s.reply? request = some (.listing Reply.hints (objective.hints.take
        (min ((g.after event).hintRequests i events + 1) objective.hints.length)))) ∧
    (s.reply? request = some (.success Reply.nothingToPonder) ↔ s.world.allComplete = true) := by
  intro s
  rw [reply?_of_asksHint (g := s) asks, response_hint]
  constructor
  · intro i first
    obtain ⟨later, stands⟩ := s.world.exists_of_firstOpen? first
    have reveals := (marks_loaded loads).reveals.trans (reveals_run events loadless) i
    rw [stands] at reveals
    cases loaded : w.objectives[i]? with
    | none =>
        rw [loaded] at reveals
        contradiction
    | some objective =>
        rw [loaded] at reveals
        -- The counts are not saved, and so each of them starts anew with a load.
        have unrevealed : objective.hintCount = 0 := by
          obtain ⟨_, _, _, read, rfl⟩ := loaded?_eq_some.mp loads
          exact World.hintCount_of_load read objective (List.mem_of_getElem? loaded)
        cases reveals with
        | some shows =>
            have hints := shows.revealedHints
            simp only [unrevealed, Nat.zero_add] at hints
            refine ⟨objective, rfl, ?_⟩
            rw [first, Option.bind_some, stands, ← hints]
  · rw [← firstOpen?_eq_none]
    cases first : s.world.firstOpen? with
    | none => simp
    | some i =>
        obtain ⟨later, stands⟩ := s.world.exists_of_firstOpen? first
        rw [Option.bind_some, stands]
        simp [Response.listing, Response.success, Response.remark]

end Game

namespace PickleQuest

/-- Two hints are shown, and then the pantry is lit. -/
def ponderedRun : List Event :=
  [.line "hint" true, .turn "go north", .line "open drawer" true, .turn "hint",
    .line "turn on flashlight" false]

theorem next_objective_starts_with_its_first_hint :
    let loading := Event.load .resume
    let start := game.save.1.after loading
    let s := start.run ponderedRun
    game.save.1.loaded? (game.save.1.request? loading) =
        some { game.world.persisted with dirty := false } ∧
      start.Loadless ponderedRun ∧ s.asksHint (.turn "hint") = true ∧
      start.hintRequests 0 ponderedRun = 2 ∧
      s.reply? (.turn "hint") = some (.listing Reply.hints (liberate.hints.take 1)) := by
  intro loading start s
  have loads : game.save.1.loaded? (game.save.1.request? loading) =
      some { game.world.persisted with dirty := false } :=
    Game.loaded?_eq_some.mpr ⟨.resume, _, rfl, load_savedStart, rfl⟩
  have read : start = game.save.1.withWorld { world with dirty := false } := by
    change (game.save.1.load .resume).toOption.getD game.save.1 = _
    rw [resume_savedStart]
    rfl
  have known : start.Loadless ponderedRun ∧ s.asksHint (.turn "hint") = true ∧
      start.hintRequests 0 ponderedRun = 2 ∧ start.hintRequests 1 ponderedRun = 0 ∧
      s.world.firstOpen? = some 1 := by
    simp only [s, read]
    decide +kernel
  obtain ⟨loadless, asks, requests, others, first⟩ := known
  obtain ⟨objective, second, shown⟩ := (Game.hints_grow_one_by_one loads loadless asks).1 1 first
  obtain rfl : liberate = objective := Option.some.inj second
  rw [others] at shown
  exact ⟨loads, loadless, asks, requests, shown⟩

end PickleQuest

end TextAdventure
