import TextAdventure.Proofs.Commands

/-!
# Where items are held

Every command moves items between what the player carries and what lies in the current room, and
leaves the other rooms alone.  What a list of transforms does to both has a closed form: all names
that it mentions go, and those that it made in the end are carried.
-/

set_option autoImplicit false

namespace TextAdventure

/-- What is carried, what lies in the current room, and what lies in the other rooms. -/
structure Holdings where
  carried : List String
  here : List String
  elsewhere : List String
deriving DecidableEq

def Holdings.names (h : Holdings) : List String :=
  h.carried ++ (h.here ++ h.elsewhere)

namespace World

/-- What lies in all rooms but the current one. -/
def elsewhere (w : World) : List String :=
  (w.rooms.eraseP (·.name == w.player.location)).flatMap (·.inventory)

def holdings (w : World) : Holdings :=
  ⟨w.player.inventory, w.lyingHere, w.elsewhere⟩

/-- All names that are held, by the player or in a room. -/
def held (w : World) : List String :=
  w.player.inventory ++ w.rooms.flatMap (·.inventory)

def HeldOnce (w : World) : Prop := w.held.Nodup

instance (w : World) : Decidable w.HeldOnce := inferInstanceAs (Decidable (List.Nodup _))

theorem lyingHere_eq (w : World) :
    w.lyingHere = (w.currentRoom?.map (·.inventory)).getD [] := by
  unfold lyingHere
  cases w.currentRoom? <;> rfl

theorem perm_flatMap_eraseP {α β : Type} (p : α → Bool) (view : α → List β) (l : List α) :
    (l.flatMap view).Perm (((l.find? p).map view).getD [] ++ (l.eraseP p).flatMap view) := by
  induction l with
  | nil => exact List.Perm.refl _
  | cons a rest ih =>
      by_cases found : p a = true
      · simp [found]
      · simp only [List.flatMap_cons, List.find?_cons, found, List.eraseP_cons]
        refine (List.Perm.append_left (view a) ih).trans ?_
        simpa using List.perm_append_comm_assoc (view a) _ _

theorem held_perm (w : World) : w.held.Perm w.holdings.names := by
  refine List.Perm.append_left w.player.inventory ?_
  rw [holdings, lyingHere_eq]
  exact perm_flatMap_eraseP _ _ _

theorem heldOnce_iff (w : World) : w.HeldOnce ↔ w.holdings.names.Nodup :=
  w.held_perm.nodup_iff

theorem heldOnce_congr {w w' : World} (rooms : w'.rooms = w.rooms)
    (inventory : w'.player.inventory = w.player.inventory) : w'.HeldOnce ↔ w.HeldOnce := by
  rw [HeldOnce, HeldOnce, held, held, rooms, inventory]

/-! ## Changes that move nothing -/

@[simp]
theorem holdings_updateItem (w : World) (name : String) (change : Item → Item) :
    (w.updateItem name change).holdings = w.holdings := rfl

@[simp]
theorem holdings_touch (w : World) : w.touch.holdings = w.holdings := rfl

@[simp]
theorem holdings_updateItems (w : World) (names : List String) (change : Item → Item) :
    (w.updateItems names change).holdings = w.holdings := by
  induction names generalizing w with
  | nil => rfl
  | cons name rest ih =>
      have later := ih (w.updateItem name change)
      simpa [updateItems] using later

@[simp]
theorem holdings_reveal (w : World) (i : Interaction) : (w.reveal i).holdings = w.holdings := by
  simp [reveal]

@[simp]
theorem holdings_applyEffects (w : World) (name action : String) (i : Interaction) :
    (w.applyEffects name action i).holdings = w.holdings := by
  unfold applyEffects
  cases i.newDescription <;> rfl

/-! ## Moving one item -/

theorem currentRoom?_updatePlayer (w : World) (change : Player → Player)
    (still : (change w.player).location = w.player.location) :
    (w.updatePlayer change).currentRoom? = w.currentRoom? := by
  rw [currentRoom?, currentRoom?, updatePlayer, still]

theorem holdings_updatePlayer (w : World) (change : Player → Player)
    (still : (change w.player).location = w.player.location) :
    (w.updatePlayer change).holdings =
      { w.holdings with carried := (change w.player).inventory } := by
  simp [holdings, lyingHere, currentRoom?, elsewhere, updatePlayer, still]

theorem holdings_updateRoom (w : World) (change : Room → Room)
    (named : ∀ room, (change room).name = room.name) :
    (w.updateRoom change).holdings =
      { w.holdings with
        here := (w.currentRoom?.map fun room => (change room).inventory).getD [] } := by
  have same : ∀ room, ((change room).name == w.player.location) =
      (room.name == w.player.location) := by
    intro room
    rw [named]
  have here : (w.updateRoom change).currentRoom? = w.currentRoom?.map change :=
    find?_updateFirst same w.rooms
  have others : (w.updateRoom change).elsewhere = w.elsewhere := by
    have kept : (updateFirst (·.name == w.player.location) change w.rooms).eraseP
        (·.name == w.player.location) = w.rooms.eraseP (·.name == w.player.location) :=
      eraseP_updateFirst same w.rooms
    exact congrArg (List.flatMap Room.inventory) kept
  rw [holdings, lyingHere_eq, here, others, Option.map_map]
  rfl

@[simp]
theorem holdings_removeNearby (w : World) (name : String) :
    (w.removeNearby name).holdings =
      { w.holdings with
        carried := removeName name w.holdings.carried
        here := removeName name w.holdings.here } := by
  rw [removeNearby, holdings_updateRoom _ (·.remove name) fun _ => rfl,
    holdings_updatePlayer _ (·.remove name) rfl, currentRoom?_updatePlayer _ (·.remove name) rfl]
  simp only [holdings, lyingHere_eq]
  cases w.currentRoom? <;> rfl

theorem holdings_pickUp (w : World) (name : String) :
    (w.pickUp name).holdings =
      { w.holdings with
        carried := addName name w.holdings.carried
        here := removeName name w.holdings.here } := by
  rw [pickUp, carry, holdings_touch, holdings_updateItem,
    holdings_updatePlayer _ (·.take name) rfl, holdings_updateRoom _ (·.remove name) fun _ => rfl]
  simp only [holdings, lyingHere_eq]
  cases w.currentRoom? <;> rfl

/-- There is a place to put an item only if the player is in a room. -/
theorem holdings_putDown {w : World} {room : Room} (inside : w.currentRoom? = some room)
    (name : String) :
    (w.putDown name).holdings =
      { w.holdings with
        carried := removeName name w.holdings.carried
        here := addName name w.holdings.here } := by
  rw [putDown, holdings_touch, holdings_updatePlayer _ (·.remove name) rfl,
    holdings_updateRoom _ (·.place name) fun _ => rfl]
  simp only [holdings, lyingHere_eq, inside]
  rfl

theorem inventory_pickUp (w : World) (name : String) :
    (w.pickUp name).player.inventory = addName name w.player.inventory :=
  congrArg Holdings.carried (w.holdings_pickUp name)

theorem lyingHere_pickUp (w : World) (name : String) :
    (w.pickUp name).lyingHere = removeName name w.lyingHere :=
  congrArg Holdings.here (w.holdings_pickUp name)

theorem inventory_putDown {w : World} {room : Room} (inside : w.currentRoom? = some room)
    (name : String) : (w.putDown name).player.inventory = removeName name w.player.inventory :=
  congrArg Holdings.carried (holdings_putDown inside name)

theorem lyingHere_putDown {w : World} {room : Room} (inside : w.currentRoom? = some room)
    (name : String) : (w.putDown name).lyingHere = addName name w.lyingHere :=
  congrArg Holdings.here (holdings_putDown inside name)

end World

/-! ## Making items of others -/

/-- The names that are not among the given ones. -/
def withoutNames (names held : List String) : List String :=
  held.filter fun name => !names.contains name

theorem mem_withoutNames {names held : List String} {name : String} :
    name ∈ withoutNames names held ↔ name ∈ held ∧ name ∉ names := by
  simp [withoutNames]

namespace Transform

def mentions (t : Transform) : List String :=
  t.source.toList ++ t.result.toList

/-- What is carried after a transform. -/
def carriedAfter (carried : List String) (t : Transform) : List String :=
  withoutNames t.mentions carried ++ t.result.toList

/-- The names that a list of transforms made in the end, in the order in which they were. -/
def madeBy (ts : List Transform) : List String :=
  ts.foldl carriedAfter []

end Transform

open Transform

theorem removeName_eq (name : String) (held : List String) :
    removeName name held = withoutNames [name] held := by
  refine List.filter_congr fun other _ => ?_
  by_cases same : other = name
  · simp [same]
  · simp [same]

theorem withoutNames_nil (held : List String) : withoutNames [] held = held :=
  List.filter_eq_self.mpr (by simp)

theorem withoutNames_append (names first second : List String) :
    withoutNames names (first ++ second) = withoutNames names first ++ withoutNames names second :=
  List.filter_append ..

theorem withoutNames_withoutNames (names more held : List String) :
    withoutNames more (withoutNames names held) = withoutNames (names ++ more) held := by
  simp only [withoutNames, List.filter_filter]
  refine List.filter_congr fun name _ => ?_
  simp [Bool.and_comm]

theorem foldl_carriedAfter (ts : List Transform) (carried made : List String) :
    ts.foldl carriedAfter (carried ++ made) =
      withoutNames (ts.flatMap mentions) carried ++ ts.foldl carriedAfter made := by
  induction ts generalizing carried made with
  | nil => simp [withoutNames_nil]
  | cons t rest ih =>
      simp only [List.foldl_cons, List.flatMap_cons, carriedAfter, withoutNames_append,
        List.append_assoc]
      rw [ih, withoutNames_withoutNames]

namespace World

@[simp]
theorem holdings_produce (w : World) (name : String) :
    (w.produce name).holdings =
      { w.holdings with
        carried := withoutNames [name] w.holdings.carried ++ [name]
        here := withoutNames [name] w.holdings.here } := by
  have gone : (withoutNames [name] w.holdings.carried).contains name = false := by
    simp [withoutNames]
  rw [produce, holdings_updateItem, holdings_updatePlayer _ (·.take name) rfl,
    holdings_removeNearby, removeName_eq, removeName_eq]
  have carried : (w.removeNearby name).player.inventory =
      withoutNames [name] w.holdings.carried := removeName_eq name w.player.inventory
  simp only [Player.take, carried, addName, gone, Bool.false_eq_true, if_false]

theorem holdings_applyTransform (w : World) (t : Transform) :
    (w.applyTransform t).holdings =
      { w.holdings with
        carried := carriedAfter w.holdings.carried t
        here := withoutNames t.mentions w.holdings.here } := by
  obtain ⟨source, result⟩ := t
  cases source with
  | none =>
      cases result with
      | none => simp [applyTransform, carriedAfter, mentions, withoutNames_nil]
      | some made => simp [applyTransform, carriedAfter, mentions]
  | some used =>
      cases result with
      | none => simp [applyTransform, carriedAfter, mentions, consume, removeName_eq]
      | some made =>
          simp [applyTransform, carriedAfter, mentions, consume, removeName_eq,
            withoutNames_withoutNames]

/-- The closed form of a list of transforms. -/
theorem holdings_applyTransforms (w : World) (ts : List Transform) :
    (w.applyTransforms ts).holdings =
      { w.holdings with
        carried := withoutNames (ts.flatMap mentions) w.holdings.carried ++ madeBy ts
        here := withoutNames (ts.flatMap mentions) w.holdings.here } := by
  -- One transform after another first; what was carried at the start is then split off.
  have steps : (w.applyTransforms ts).holdings =
      { w.holdings with
        carried := ts.foldl carriedAfter w.holdings.carried
        here := withoutNames (ts.flatMap mentions) w.holdings.here } := by
    unfold applyTransforms
    induction ts generalizing w with
    | nil => simp [withoutNames_nil]
    | cons t rest ih =>
        rw [List.foldl_cons, ih, holdings_applyTransform]
        simp [withoutNames_withoutNames]
  have carried := foldl_carriedAfter ts w.holdings.carried []
  rw [List.append_nil] at carried
  rw [steps, carried]
  rfl

theorem holdings_carryOutDeed (w : World) (deed : Deed) :
    (w.carryOutDeed deed).state.holdings =
      { w.holdings with
        carried :=
          withoutNames (deed.transforms.flatMap mentions) w.holdings.carried ++
            madeBy deed.transforms
        here := withoutNames (deed.transforms.flatMap mentions) w.holdings.here } := by
  cases deed with
  | single item action i =>
      simp [carryOutDeed, perform, answer, holdings_applyTransforms, Deed.transforms]
  | paired first second i j =>
      simp [carryOutDeed, performPair, answer, holdings_applyTransforms, Deed.transforms]

theorem inventory_carryOutDeed (w : World) (deed : Deed) :
    (w.carryOutDeed deed).state.player.inventory =
      withoutNames (deed.transforms.flatMap mentions) w.player.inventory ++
        madeBy deed.transforms :=
  congrArg Holdings.carried (w.holdings_carryOutDeed deed)

theorem lyingHere_carryOutDeed (w : World) (deed : Deed) :
    (w.carryOutDeed deed).state.lyingHere =
      withoutNames (deed.transforms.flatMap mentions) w.lyingHere :=
  congrArg Holdings.here (w.holdings_carryOutDeed deed)

end World

end TextAdventure
