import TextAdventure.Proofs.Custody

/-!
# Taking and dropping undo each other

An item that was taken can be dropped right after, and one that was dropped can be taken right
after, by the same name.  What was put at the end of one list is taken from it again, so both ways
the only traces are that the item is known and that it stands last where it was.
-/

set_option autoImplicit false

namespace TextAdventure

/-- Where keys are distinct, changing the first element of a key is changing the one that has it. -/
theorem updateFirst_eq_map {α κ : Type} [DecidableEq κ] {key : α → κ} {change : α → α} {k : κ}
    {l : List α} (distinct : (l.map key).Nodup) :
    updateFirst (key · == k) change l = l.map fun a => if key a = k then change a else a := by
  induction l with
  | nil => rfl
  | cons a rest ih =>
      obtain ⟨fresh, later⟩ := List.nodup_cons.mp distinct
      by_cases found : key a = k
      · have others : ∀ b ∈ rest, (if key b = k then change b else b) = b := by
          intro b member
          refine if_neg ?_
          rintro rfl
          exact fresh (found ▸ List.mem_map_of_mem member)
        simp [updateFirst, found, List.map_congr_left others]
      · simp [updateFirst, found, ih later]

/-! ## One name in a list -/

theorem mem_addName (name : String) (held : List String) : name ∈ addName name held := by
  unfold addName
  split
  case isTrue listed => exact List.contains_iff_mem.mp listed
  case isFalse => exact List.mem_append_right held (List.mem_singleton_self name)

theorem notMem_removeName (name : String) (held : List String) : name ∉ removeName name held := by
  simp [removeName]

theorem removeName_addName {name : String} {held : List String} (free : name ∉ held) :
    removeName name (addName name held) = held := by
  have kept : held.filter (· != name) = held := by
    apply List.filter_eq_self.mpr
    intro other member
    simpa using ne_of_mem_of_not_mem member free
  have last : [name].filter (· != name) = [] := by simp
  rw [World.addName_of_notMem free, removeName, List.filter_append, kept, last, List.append_nil]

theorem addName_removeName {name : String} {held : List String} (once : held.Nodup) :
    addName name (removeName name held) = held.erase name ++ [name] := by
  rw [World.addName_of_notMem (notMem_removeName name held), once.erase_eq_filter name, removeName]

/-! ## An item becomes known -/

/-- The item, known if it has this name. -/
def Item.foundAs (item : Item) (name : String) : Item :=
  if item.name = name then { item with discovered := true } else item

namespace Item

variable (item : Item) (name : String)

@[simp]
theorem name_foundAs : (item.foundAs name).name = item.name := by
  unfold foundAs
  split <;> rfl

theorem answersTo_foundAs (called : String) :
    (item.foundAs name).answersTo called = item.answersTo called := by
  unfold foundAs
  split <;> rfl

end Item

namespace World

/-- No two items have exactly the same name. -/
def DistinctNames (w : World) : Prop := (w.items.map (·.name)).Nodup

instance (w : World) : Decidable w.DistinctNames := inferInstanceAs (Decidable (List.Nodup _))

/-- The items, of which those of a name are known. -/
def itemsFound (w : World) (name : String) : List Item :=
  w.items.map (·.foundAs name)

/-- A name leads to the same item as before, which is now known if it is the one that was found. -/
theorem item?_of_itemsFound {before after : World} {name : String}
    (items : after.items = before.itemsFound name) (called : String) :
    after.item? called = (before.item? called).map (·.foundAs name) := by
  have same : (fun item : Item => (item.foundAs name).answersTo called) =
      fun item => item.answersTo called := funext fun item => item.answersTo_foundAs name called
  rw [item?, items, itemsFound, List.find?_map, Function.comp_def, same, item?]

variable {w : World}

theorem DistinctNames.items_pickUp (distinct : w.DistinctNames) (name : String) :
    (w.pickUp name).items = w.itemsFound name :=
  updateFirst_eq_map distinct

/-! ## What can be taken and dropped -/

section Commands

variable {target? : Option String} {item : Item}

theorem CanTake.take_eq (can : w.CanTake target? item) :
    ∃ r, r.status = .success ∧ w.take target? = ⟨w.pickUp item.name, r⟩ := by
  obtain ⟨_, _, named⟩ := Option.bind_eq_some_iff.mp can.found
  obtain ⟨other, record⟩ := record?_isSome (item?_mem named)
  refine ⟨.headed Reply.itemAdded other.summary, rfl, ?_⟩
  simp [take, can.found, can.here, can.collectible, can.unlocked, record, answer]

theorem CanDrop.drop_eq (can : w.CanDrop target? item) :
    ∃ r, r.status = .success ∧ w.drop target? = ⟨w.putDown item.name, r⟩ := by
  obtain ⟨room, inside⟩ := can.room
  refine ⟨.headed (Reply.dropped room.name) item.summary, rfl, ?_⟩
  simp [drop, can.found, can.held, can.absent, inside, answer]

theorem canTake_of_success (success : (w.take target?).response.status = .success) :
    ∃ item, w.CanTake target? item := by
  rcases w.take_cases target? with ⟨text, refused⟩ | ⟨item, _, can, _, _⟩
  · rw [refused] at success
    contradiction
  · exact ⟨item, can⟩

theorem canDrop_of_success (success : (w.drop target?).response.status = .success) :
    ∃ item, w.CanDrop target? item := by
  rcases w.drop_cases target? with ⟨text, refused⟩ | ⟨item, _, can, _, _⟩
  · rw [refused] at success
    contradiction
  · exact ⟨item, can⟩

theorem CanTake.inside (can : w.CanTake target? item) : ∃ room, w.currentRoom? = some room := by
  have here := can.here
  rw [inRoom, lyingHere] at here
  cases inside : w.currentRoom? with
  | none => simp [inside] at here
  | some room => exact ⟨room, rfl⟩

theorem CanTake.not_carried (can : w.CanTake target? item) (once : w.HeldOnce) :
    item.name ∉ w.player.inventory := by
  have unique : (w.player.inventory ++ (w.lyingHere ++ w.elsewhere)).Nodup :=
    w.heldOnce_iff.mp once
  have lying : item.name ∈ w.lyingHere := List.contains_iff_mem.mp can.here
  intro held
  exact (List.nodup_append.mp unique).2.2 _ held _ (List.mem_append_left _ lying) rfl

theorem CanDrop.not_lying (can : w.CanDrop target? item) : item.name ∉ w.lyingHere := by
  intro lying
  have here : w.inRoom item.name = true := List.contains_iff_mem.mpr lying
  rw [can.absent] at here
  contradiction

/-! ## The one right after the other -/

theorem currentRoom?_pickUp (w : World) (name : String) :
    (w.pickUp name).currentRoom? = w.currentRoom?.map (·.remove name) := by
  have named : ∀ room : Room, ((room.remove name).name == w.player.location) =
      (room.name == w.player.location) := fun _ => rfl
  exact find?_updateFirst named w.rooms

/-- What was taken is carried and no longer in the room, so it can be dropped. -/
theorem CanTake.canDrop (can : w.CanTake target? item) (distinct : w.DistinctNames) :
    (w.pickUp item.name).CanDrop target? (item.foundAs item.name) := by
  obtain ⟨called, rfl, named⟩ := Option.bind_eq_some_iff.mp can.found
  refine ⟨?found, ?held, ?absent, ?room⟩
  case found =>
      have again := item?_of_itemsFound (distinct.items_pickUp item.name) called
      rw [named] at again
      exact again
  case held =>
      rw [Item.name_foundAs, Player.holds, inventory_pickUp]
      exact List.contains_iff_mem.mpr (mem_addName item.name w.player.inventory)
  case absent =>
      rw [Item.name_foundAs, inRoom, lyingHere_pickUp, ← Bool.not_eq_true, List.contains_iff_mem]
      exact notMem_removeName item.name w.lyingHere
  case room =>
      obtain ⟨room, inside⟩ := can.inside
      exact ⟨room.remove item.name, by rw [currentRoom?_pickUp, inside, Option.map_some]⟩

/-- What was dropped lies in the room, so it can be taken if it ever can. -/
theorem CanDrop.canTake (can : w.CanDrop target? item) (collectible : item.collectible = true)
    (unlocked : item.locked = false) : (w.putDown item.name).CanTake target? item := by
  obtain ⟨room, inside⟩ := can.room
  refine ⟨can.found, collectible, unlocked, ?_⟩
  rw [inRoom, lyingHere_putDown inside]
  exact List.contains_iff_mem.mpr (mem_addName item.name w.lyingHere)

theorem CanTake.putDown_pickUp (can : w.CanTake target? item) (distinct : w.DistinctNames)
    (once : w.HeldOnce) :
    (w.pickUp item.name).putDown item.name =
      { w with
        rooms := w.roomsWith (w.lyingHere.erase item.name ++ [item.name])
        items := w.itemsFound item.name
        dirty := true } := by
  obtain ⟨room, inside⟩ := (can.canDrop distinct).room
  have unique : (w.player.inventory ++ (w.lyingHere ++ w.elsewhere)).Nodup :=
    w.heldOnce_iff.mp once
  have hereOnce : w.lyingHere.Nodup :=
    (List.nodup_append.mp (List.nodup_append.mp unique).2.1).1
  have items : ((w.pickUp item.name).putDown item.name).items = w.itemsFound item.name :=
    distinct.items_pickUp item.name
  have carried : ((w.pickUp item.name).putDown item.name).player.inventory =
      w.player.inventory := by
    rw [inventory_putDown inside, inventory_pickUp, removeName_addName (can.not_carried once)]
  have here : ((w.pickUp item.name).putDown item.name).lyingHere =
      w.lyingHere.erase item.name ++ [item.name] := by
    rw [lyingHere_putDown inside, lyingHere_pickUp, addName_removeName hereOnce]
  have rooms := ((w.rearranges_pickUp item.name).trans (rearranges_putDown _ item.name)).rooms
  rw [here] at rooms
  have whole : (w.pickUp item.name).putDown item.name =
      { w with
        rooms := ((w.pickUp item.name).putDown item.name).rooms
        items := ((w.pickUp item.name).putDown item.name).items
        player := { w.player with
          inventory := ((w.pickUp item.name).putDown item.name).player.inventory }
        dirty := true } := rfl
  rw [whole, rooms, items, carried]

theorem CanDrop.pickUp_putDown (can : w.CanDrop target? item) (distinct : w.DistinctNames)
    (once : w.HeldOnce) :
    (w.putDown item.name).pickUp item.name =
      { w with
        player := { w.player with
          inventory := w.player.inventory.erase item.name ++ [item.name] }
        items := w.itemsFound item.name
        dirty := true } := by
  obtain ⟨room, inside⟩ := can.room
  have carriedOnce : w.player.inventory.Nodup := (List.nodup_append.mp once).1
  have still : (w.putDown item.name).DistinctNames := distinct
  have items : ((w.putDown item.name).pickUp item.name).items = w.itemsFound item.name :=
    still.items_pickUp item.name
  have carried : ((w.putDown item.name).pickUp item.name).player.inventory =
      w.player.inventory.erase item.name ++ [item.name] := by
    rw [inventory_pickUp, inventory_putDown inside, addName_removeName carriedOnce]
  have here : ((w.putDown item.name).pickUp item.name).lyingHere = w.lyingHere := by
    rw [lyingHere_pickUp, lyingHere_putDown inside, removeName_addName can.not_lying]
  have rooms := ((w.rearranges_putDown item.name).trans (rearranges_pickUp _ item.name)).rooms
  rw [here, roomsWith_lyingHere] at rooms
  have whole : (w.putDown item.name).pickUp item.name =
      { w with
        rooms := ((w.putDown item.name).pickUp item.name).rooms
        items := ((w.putDown item.name).pickUp item.name).items
        player := { w.player with
          inventory := ((w.putDown item.name).pickUp item.name).player.inventory }
        dirty := true } := rfl
  rw [whole, rooms, items, carried]

end Commands

/-- Where items have distinct names and each is held once, what was taken can be dropped right
after, and what was dropped can be taken right after if it is collectible and not locked.  Then the
world is as it was, but the item is known, there is something to save, and the item stands last in
the room or among what is carried. -/
theorem taking_and_dropping_undo_each_other (w : World) (distinct : w.DistinctNames)
    (once : w.HeldOnce) (target? : Option String) :
    ((w.take target?).response.status = .success →
      ∃ item, target?.bind w.item? = some item ∧
        ((w.take target?).state.drop target?).response.status = .success ∧
        ((w.take target?).state.drop target?).state =
          { w with
            rooms := w.roomsWith (w.lyingHere.erase item.name ++ [item.name])
            items := w.itemsFound item.name
            dirty := true }) ∧
    ∀ item, target?.bind w.item? = some item → item.collectible = true → item.locked = false →
      (w.drop target?).response.status = .success →
        ((w.drop target?).state.take target?).response.status = .success ∧
        ((w.drop target?).state.take target?).state =
          { w with
            player := { w.player with
              inventory := w.player.inventory.erase item.name ++ [item.name] }
            items := w.itemsFound item.name
            dirty := true } := by
  constructor
  · intro success
    obtain ⟨item, can⟩ := canTake_of_success success
    obtain ⟨_, _, taken⟩ := can.take_eq
    obtain ⟨_, dropped, back⟩ := (can.canDrop distinct).drop_eq
    rw [Item.name_foundAs] at back
    rw [taken, back, can.putDown_pickUp distinct once]
    exact ⟨item, can.found, dropped, rfl⟩
  · intro item found collectible unlocked success
    obtain ⟨other, can⟩ := canDrop_of_success success
    obtain rfl : other = item := Option.some.inj (can.found.symm.trans found)
    obtain ⟨_, _, dropped⟩ := can.drop_eq
    obtain ⟨_, taken, back⟩ := (can.canTake collectible unlocked).take_eq
    rw [dropped, back, can.pickUp_putDown distinct once]
    exact ⟨taken, rfl⟩

end World

namespace PickleQuest

/-- The player in the kitchen, where the fork comes first, with two more things in hand. -/
def forkFirst : World :=
  { world with
    rooms := [entry, { kitchen with inventory := ["fork", "sink", "drawer"] }, pantry, livingRoom]
    player := { player with location := "kitchen", inventory := ["flashlight", "pickle"] } }

theorem fork_and_flashlight_are_last :
    let forkBack := (forkFirst.take (some "utensil")).state.drop (some "utensil")
    let lightBack := (forkFirst.drop (some "torch")).state.take (some "torch")
    forkFirst.DistinctNames ∧ forkFirst.HeldOnce ∧
      forkBack.response.status = .success ∧
      forkBack.state =
        { forkFirst with
          rooms := forkFirst.roomsWith ["sink", "drawer", "fork"]
          items := forkFirst.itemsFound "fork"
          dirty := true } ∧
      lightBack.response.status = .success ∧
      lightBack.state =
        { forkFirst with
          player := { forkFirst.player with inventory := ["pickle", "flashlight"] }
          items := forkFirst.itemsFound "flashlight"
          dirty := true } := by
  intro forkBack lightBack
  have known : forkFirst.DistinctNames ∧ forkFirst.HeldOnce ∧
      (forkFirst.take (some "utensil")).response.status = .success ∧
      (forkFirst.drop (some "torch")).response.status = .success ∧
      forkFirst.item? "utensil" = some fork ∧ forkFirst.item? "torch" = some flashlight := by
    decide +kernel
  obtain ⟨distinct, once, taken, dropped, isFork, isLight⟩ := known
  obtain ⟨item, found, success, state⟩ :=
    (forkFirst.taking_and_dropping_undo_each_other distinct once (some "utensil")).1 taken
  obtain rfl : item = fork := Option.some.inj (found.symm.trans isFork)
  have again := (forkFirst.taking_and_dropping_undo_each_other distinct once (some "torch")).2
    flashlight isLight rfl rfl dropped
  exact ⟨distinct, once, success, state, again.1, again.2⟩

end PickleQuest

end TextAdventure
