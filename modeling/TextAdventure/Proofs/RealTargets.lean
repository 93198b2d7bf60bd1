import TextAdventure.Proofs.Lookup
import TextAdventure.Proofs.VerbChoice

/-!
# What the targets of a line are

The player's words refer to a command keyword, to a room or to an item at hand (`InReach`), and the
targets of a line are what its words refer to.  There is one exception: the aliases of words that
refer to nothing are asked for with these words as the target (`Verbatim`).
-/

set_option autoImplicit false

namespace TextAdventure

/-! ## What a phrase refers to -/

theorem Vocabulary.keyword?_mem {v : Vocabulary} {phrase keyword : String}
    (means : v.keyword? phrase = some keyword) : keyword ∈ keywordTables.map (·.2) := by
  obtain ⟨entry, first, rfl⟩ := Option.map_eq_some_iff.mp means
  exact List.mem_map_of_mem (List.mem_of_find?_eq_some first)

/-- The names that the player can refer to: keywords, and those of the rooms and of the items at
hand. -/
inductive World.InReach (w : World) : String → Prop
  | keyword {name : String} (fixed : name ∈ Vocabulary.keywordTables.map (·.2)) : InReach w name
  | room {room : Room} (known : room ∈ w.rooms) : InReach w room.name
  | item {item : Item} (known : item ∈ w.items)
      (atHand : item.name ∈ w.player.inventory ∨ item.name ∈ w.lyingHere) : InReach w item.name

namespace Scene

variable {s : Scene}

theorem inReach_of_referent? {phrase name : String} (refers : s.referent? phrase = some name) :
    s.world.InReach name := by
  rw [referent?, Option.or_eq_some_iff, Option.or_eq_some_iff] at refers
  rcases refers with keyword | ⟨_, room | ⟨_, item⟩⟩
  · exact .keyword (Vocabulary.keyword?_mem keyword)
  · obtain ⟨room, leads, rfl⟩ := Option.map_eq_some_iff.mp room
    exact .room (World.destination?_mem leads)
  · obtain ⟨item, near, rfl⟩ := Option.map_eq_some_iff.mp item
    exact .item (World.mem_of_nearbyItem? near) (World.atHand_of_nearbyItem? near)

/-- What a target must be to come from words that refer to something. -/
structure Real (s : Scene) (target : String) : Prop where
  nonempty : target ≠ ""
  inReach : s.world.InReach target

theorem real_of_target? (player : s.fromPlayer = true) {words : List String} {target : String}
    (named : s.target? words = some target) : s.Real target := by
  rw [target?, Option.filter_eq_some_iff] at named
  obtain ⟨found, full⟩ := named
  rw [resolve?, find?, if_neg (by simp [player])] at found
  split at found
  case isTrue => exact nomatch found
  case isFalse => exact ⟨by simpa using full, inReach_of_referent? found⟩

theorem Names.exists_target? {words targets : List String} (names : s.Names words targets) :
    ∀ target ∈ targets, ∃ inside, s.target? inside = some target := by
  induction names with
  | nothing => nofun
  | @first _ _ span _ picks _ ih =>
      intro target member
      rcases List.mem_cons.mp member with rfl | later
      · exact ⟨span.inside, picks.names⟩
      · exact ih target later

theorem real_of_mem_targets (player : s.fromPlayer = true) (words : List String) :
    ∀ target ∈ s.targets words, s.Real target := by
  intro target member
  obtain ⟨_, named⟩ := (s.search?_names words).2.exists_target? target member
  exact real_of_target? player named

theorem unnamed_of_targets_eq_nil {words : List String} (untargeted : s.targets words = []) :
    ∀ span : Span, span.LiesIn words → s.target? span.inside = none := by
  have names := (s.search?_names words).2
  rw [untargeted] at names
  cases names with
  | nothing unnamed => exact unnamed

end Scene

/-! ## What a line asks for -/

namespace Reader

variable {r : Reader} {d : Dialogue}

/-- The aliases of words that refer to nothing are asked for, with the words as the target. -/
inductive Verbatim (r : Reader) (line : String) : Intent → Prop
  | words {verb : String} {rest : List String} (words : r.words line = verb :: rest)
      (more : rest ≠ []) (meaning : r.scene.vocabulary.action verb = .aliases)
      (unnamed : ∀ span : Span, span.LiesIn rest → r.scene.target? span.inside = none) :
      Verbatim r line (.withTarget .aliases (" ".intercalate rest))

/-- All targets are what words refer to, or the intent is the exception. -/
def Grounded (r : Reader) (line : String) (intent : Intent) : Prop :=
  (∀ target, some target ∈ intent.targets → r.scene.Real target) ∨ r.Verbatim line intent

theorem grounded_withTargets {line : String} {action : Action} {targets : List String}
    (real : ∀ target ∈ targets, r.scene.Real target) :
    r.Grounded line (.withTargets action targets) := by
  refine Or.inl fun target member => real target ?_
  simpa [Intent.withTargets] using member

theorem grounded_withTarget {line : String} {action : Action} {target : String}
    (real : r.scene.Real target) : r.Grounded line (.withTarget action target) := by
  have single : ∀ other ∈ [target], r.scene.Real other := by simpa using real
  exact grounded_withTargets single

theorem grounded_untargeted {line : String} {action : Action} :
    r.Grounded line (.untargeted action) :=
  Or.inl fun target member => by simp [Intent.untargeted] at member

theorem real_mapName (s : Scene) : s.Real mapName :=
  ⟨by decide, .keyword (by decide)⟩

theorem action_of_meaning_aliases {phrase : String} (meaning : r.meaning d phrase = .aliases) :
    r.scene.vocabulary.action phrase = .aliases := by
  rcases r.gated_cases d (r.scene.vocabulary.action phrase) with passed | closed | declined
  · exact passed.symm.trans meaning
  · exact nomatch closed.symm.trans meaning
  · exact nomatch declined.symm.trans meaning

theorem grounded_wordsTargets (player : r.scene.fromPlayer = true) {line verb : String}
    {rest : List String} (words : r.words line = verb :: rest) (more : rest ≠ []) {action : Action}
    (meaning : r.meaning d verb = action) :
    r.Grounded line (.withTargets action (r.wordsTargets action rest)) := by
  unfold wordsTargets
  cases targets : r.scene.targets rest with
  | cons target others =>
      have real := Scene.real_of_mem_targets player rest
      rw [targets] at real
      exact grounded_withTargets real
  | nil =>
      by_cases aliases : action = .aliases
      · subst aliases
        exact Or.inr (.words words more (action_of_meaning_aliases meaning)
          (Scene.unnamed_of_targets_eq_nil targets))
      · rw [if_neg aliases]
        exact grounded_withTargets nofun

theorem grounded_interpret (player : r.scene.fromPlayer = true) (line : String) :
    r.Grounded line (r.interpret line d).1 := by
  have reads := r.reads_interpret line d
  generalize r.interpret line d = read at reads ⊢
  cases reads with
  | nothing => exact Or.inl nofun
  | oneMap => exact grounded_withTarget (real_mapName r.scene)
  | oneWord => exact grounded_untargeted
  | onePlace _ _ named => exact grounded_withTarget (Scene.real_of_target? player named)
  | oneLost => exact grounded_untargeted
  | map => exact grounded_withTarget (real_mapName r.scene)
  | phrase => exact grounded_withTargets (Scene.real_of_mem_targets player _)
  | verb words _ _ asked =>
      exact grounded_wordsTargets player words (List.cons_ne_nil _ _) (meaning_of_action asked)
  | place _ _ _ named =>
      apply grounded_withTargets
      rcases named with ⟨_, rfl⟩ | rfl
      · intro target member
        exact Scene.real_of_target? player (Option.mem_toList.mp member)
      · exact Scene.real_of_mem_targets player _

theorem isWord_of_mem_words {line : String} : ∀ w ∈ r.words line, Text.IsWord w := by
  intro w member
  exact Text.isWord_of_mem_lowered (fun _ => Text.isWord_of_mem_words _) w
    (List.mem_of_mem_filter member)

theorem Verbatim.nonempty {line : String} {intent : Intent} (verbatim : r.Verbatim line intent) :
    ∀ target, some target ∈ intent.targets → target ≠ "" := by
  obtain ⟨words, more, _, _⟩ := verbatim
  intro target member
  rw [Option.some.inj (List.mem_singleton.mp member)]
  refine Text.intercalate_ne_empty ?_ more
  intro w later
  exact isWord_of_mem_words w (words ▸ List.mem_cons_of_mem _ later)

end Reader

namespace Game

/-- The targets of a line of the player are keywords, rooms or items at hand, and none is empty,
unless the aliases of words are asked for that refer to nothing.  So an item that is not at hand is
not referred to: a target may have its name only if that is a keyword or the name of a room. -/
theorem targets_are_in_reach (g : Game) (line : String) :
    let r := g.reader true
    let intent := (g.interpret line true).1
    ((∀ target, some target ∈ intent.targets → g.world.InReach target) ∨ r.Verbatim line intent) ∧
    (∀ target, some target ∈ intent.targets → target ≠ "") ∧
    ∀ item ∈ g.world.items, some item.name ∈ intent.targets → ¬r.Verbatim line intent →
      item.name ∈ g.world.player.inventory ∨ item.name ∈ g.world.lyingHere ∨
        item.name ∈ Vocabulary.keywordTables.map (·.2) ∨
          ∃ room ∈ g.world.rooms, room.name = item.name := by
  intro r intent
  have grounded : r.Grounded line intent := Reader.grounded_interpret rfl line
  refine ⟨?_, ?_, ?_⟩
  · exact grounded.imp_left fun real target member => (real target member).inReach
  · rcases grounded with real | verbatim
    · exact fun target member => (real target member).nonempty
    · exact verbatim.nonempty
  · intro item _ member meant
    have real := grounded.resolve_right meant
    generalize item.name = name at member ⊢
    cases (real name member).inReach with
    | keyword fixed => exact Or.inr (Or.inr (Or.inl fixed))
    | room known => exact Or.inr (Or.inr (Or.inr ⟨_, known, rfl⟩))
    | item known atHand =>
        rcases atHand with carried | lying
        · exact Or.inl carried
        · exact Or.inr (Or.inl lying)

end Game

/-- The pickle jar is in the pantry, so that at the entry it is no target but of a question about
its aliases. -/
example :
    (PickleQuest.game.interpret "take the pickle jar" true).1 = .withTargets .take [] ∧
      (PickleQuest.game.interpret "alias pickle jar" true).1 =
        .withTarget .aliases "pickle jar" := by
  decide +kernel

end TextAdventure
