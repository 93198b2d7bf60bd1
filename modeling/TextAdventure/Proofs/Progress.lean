import TextAdventure.Proofs.Development

/-!
# Progress is never lost

Between any two states of a run that loads nothing, the later one has all that the earlier one had:
found items stay found, shown and unlocked ones stay so, the win, the credits and the visits remain,
and hints that were revealed stay revealed.  A loaded world has no hint revealed, so no count of
hints ever runs beyond them.
-/

set_option autoImplicit false

namespace TextAdventure

structure Item.Progresses (before after : Item) : Prop where
  name : after.name = before.name
  discovered : before.discovered = true → after.discovered = true
  hidden : before.hidden = false → after.hidden = false
  locked : before.locked = false → after.locked = false

structure Objective.Progresses (before after : Objective) : Prop where
  name : after.name = before.name
  hints : after.hints = before.hints
  hintCount : before.hintCount ≤ before.hints.length →
    before.hintCount ≤ after.hintCount ∧ after.hintCount ≤ after.hints.length

namespace World

/-- The later world has at least the progress of the earlier one. -/
structure Progresses (before after : World) : Prop where
  items : List.Forall₂ Item.Progresses before.items after.items
  objectives : List.Forall₂ Objective.Progresses before.objectives after.objectives
  won : before.player.won = true → after.player.won = true
  watchedCredits : before.player.watchedCredits = true → after.player.watchedCredits = true
  visitedRooms : ∃ more, after.player.visitedRooms = before.player.visitedRooms ++ more ∧
    more.Nodup ∧ ∀ room ∈ more, room ∉ before.player.visitedRooms

theorem Develops.progresses {told : String → List String → Prop} {before after : World}
    (develops : before.Develops told after) : before.Progresses after := by
  obtain ⟨won, watchedCredits, visitedRooms⟩ := develops.player
  refine ⟨develops.items.imp ?items, develops.objectives.imp ?objectives, won, watchedCredits,
    visitedRooms⟩
  case items =>
      intro item later becomes
      refine ⟨becomes.name, becomes.discovered, ?_, ?_⟩
      · intro shown
        rw [← Bool.not_eq_true] at shown ⊢
        exact mt becomes.hidden shown
      · intro free
        rw [← Bool.not_eq_true] at free ⊢
        exact mt becomes.locked free
  case objectives =>
      intro objective later becomes
      have name : later.fixed.name = objective.fixed.name := congrArg Objective.name becomes.fixed
      have hints : later.fixed.hints = objective.fixed.hints :=
        congrArg Objective.hints becomes.fixed
      exact ⟨name, hints, becomes.hintCount⟩

end World

/-! ## Hints of a loaded world -/

theorem exists_of_forall₂ {α β : Type} {R : α → β → Prop} {l : List α} {m : List β}
    (related : List.Forall₂ R l m) {b : β} (member : b ∈ m) : ∃ a ∈ l, R a b := by
  induction related with
  | nil => exact absurd member List.not_mem_nil
  | cons head _ ih =>
      rcases List.mem_cons.mp member with rfl | later
      · exact ⟨_, List.mem_cons_self, head⟩
      · obtain ⟨a, listed, found⟩ := ih later
        exact ⟨a, List.mem_cons_of_mem _ listed, found⟩

theorem mem_of_mapM {α β : Type} {f : α → Option β} {l : List α} {m : List β}
    (read : l.mapM f = some m) {b : β} (member : b ∈ m) : ∃ a ∈ l, f a = some b := by
  induction l generalizing m with
  | nil =>
      have empty : m = [] := by simpa using read.symm
      rw [empty] at member
      exact absurd member List.not_mem_nil
  | cons a rest ih =>
      simp only [List.mapM_cons, Option.bind_eq_bind, Option.bind_eq_some_iff, Option.pure_def,
        Option.some.injEq] at read
      obtain ⟨first, head, others, tail, rfl⟩ := read
      rcases List.mem_cons.mp member with same | later
      · exact ⟨a, List.mem_cons_self, same ▸ head⟩
      · obtain ⟨other, listed, found⟩ := ih tail later
        exact ⟨other, List.mem_cons_of_mem _ listed, found⟩

theorem Objective.hintCount_of_read {value : Json} {objective : Objective}
    (read : Objective.ofJson? value = some objective) : objective.hintCount = 0 := by
  simp only [Objective.ofJson?, Option.bind_eq_bind, Option.bind_eq_some_iff, Option.pure_def,
    Option.some.injEq] at read
  obtain ⟨r, _, name, _, hints, _, requires, _, markers, _, rfl⟩ := read
  rfl

theorem ofJson?_of_readValue {α : Type} {t : FileTable} {ofJson? : Json → Option α} {path : String}
    {a : α} (read : readValue t ofJson? path = .ok a) : ∃ value, ofJson? value = some a := by
  unfold readValue decode at read
  cases text : t.read path with
  | error cause => simp [text] at read
  | ok text_ =>
      cases parsed : Json.ofText? text_ with
      | none => simp [text, parsed] at read
      | some value =>
          cases typed : ofJson? value with
          | none => simp [text, parsed, typed] at read
          | some b =>
              have same : b = a := by simpa [text, parsed, typed] using read
              exact ⟨value, same ▸ typed⟩

/-- No hint of a world that comes from files is revealed. -/
theorem World.hintCount_of_load {t : FileTable} {directory : String} {w : World}
    (read : World.load t directory = .ok w) :
    ∀ objective ∈ w.objectives, objective.hintCount = 0 := by
  obtain ⟨items, _, read⟩ := bind_eq_ok.mp read
  obtain ⟨rooms, _, read⟩ := bind_eq_ok.mp read
  obtain ⟨player, _, read⟩ := bind_eq_ok.mp read
  obtain ⟨objectives, listed, read⟩ := bind_eq_ok.mp read
  have same : w.objectives = objectives := (congrArg World.objectives (Except.ok.inj read)).symm
  obtain ⟨value, spelled⟩ := ofJson?_of_readValue listed
  rw [same]
  intro objective member
  cases value with
  | array values =>
      obtain ⟨one, _, found⟩ := mem_of_mapM spelled member
      exact Objective.hintCount_of_read found
  | _ => contradiction

namespace Game

open World

theorem hintCount_of_load {g loaded : Game} {mode : LoadMode} (success : g.load mode = .ok loaded) :
    ∀ objective ∈ loaded.world.objectives, objective.hintCount = 0 := by
  rcases g.load_cases mode with ⟨w, read, done⟩ | ⟨error, _, failed⟩
  · rw [done] at success
    rw [← Except.ok.inj success]
    have unrevealed := World.hintCount_of_load read
    exact unrevealed
  · rw [failed] at success
    contradiction

/-! ## Runs -/

/-- In a run that loads nothing, each state has all the progress of the states before it.  In one
that starts with a load, no objective ever has more hints revealed than it has. -/
theorem progress_is_monotone (g : Game) :
    (∀ events, g.Loadless events →
      (g.states events).Pairwise fun s later => s.world.Progresses later.world) ∧
    ∀ mode loaded, g.load mode = .ok loaded → ∀ events, loaded.Loadless events →
      ∀ s ∈ loaded.states events, ∀ objective ∈ s.world.objectives,
        objective.hintCount ≤ objective.hints.length := by
  constructor
  · intro events loadless
    induction events generalizing g with
    | nil => exact List.pairwise_singleton _ g
    | cons event rest ih =>
        refine List.pairwise_cons.mpr ⟨?_, ih (g.after event) loadless.2⟩
        intro s later
        exact (develops_states (event :: rest) loadless s (List.mem_cons_of_mem g later)).progresses
  · intro mode loaded success events loadless s member objective listed
    have develops := develops_states events loadless s member
    -- The objective is one that was loaded, and that one had no hint revealed.
    obtain ⟨first, start, becomes⟩ := exists_of_forall₂ develops.objectives listed
    have unrevealed := hintCount_of_load success first start
    exact (becomes.hintCount (by omega)).2

end Game

namespace PickleQuest

/-- A hint is shown, and then the drawer is opened in the next room. -/
def hintedRun : List Event :=
  [.line "hint" true, .line "go north" false, .turn "open drawer"]

theorem hint_and_visit_are_kept :
    ∃ loaded, game.save.1.load .resume = .ok loaded ∧ loaded.Loadless hintedRun ∧
      ((loaded.states hintedRun).Pairwise fun s later => s.world.Progresses later.world) ∧
      (∀ s ∈ loaded.states hintedRun, ∀ objective ∈ s.world.objectives,
        objective.hintCount ≤ objective.hints.length) ∧
      (loaded.run hintedRun).world.objectives.map (·.hintCount) = [1, 0, 0] ∧
      (loaded.run hintedRun).world.player.visitedRooms = ["entry", "kitchen"] := by
  have read := Game.read_after_save (g := game) (by decide +kernel) (by decide +kernel)
  have same : game.world.persisted = world := rfl
  rw [same] at read
  have loads := Game.load_of_read read
  refine ⟨_, loads, ?_⟩
  generalize start : game.save.1.withWorld { world with dirty := false } = loaded at loads ⊢
  have played : loaded.Loadless hintedRun ∧
      (loaded.run hintedRun).world.objectives.map (·.hintCount) = [1, 0, 0] ∧
      (loaded.run hintedRun).world.player.visitedRooms = ["entry", "kitchen"] := by
    rw [← start]
    decide +kernel
  obtain ⟨loadless, played⟩ := played
  exact ⟨loadless, (loaded.progress_is_monotone).1 hintedRun loadless,
    game.save.1.progress_is_monotone.2 .resume loaded loads hintedRun loadless, played⟩

end PickleQuest

end TextAdventure
