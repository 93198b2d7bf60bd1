import TextAdventure.Proofs.JsonText
import TextAdventure.Storage.GameFiles

/-!
# Records survive their file format

Each kind of field comes back from the value that is written for it, and each record, whose fields
are written under their declared names, comes back from its fields.  Only an objective comes back
changed, without its count of hints.
-/

set_option autoImplicit false

namespace TextAdventure

/-! ## Maps from names -/

theorem insertEntry_perm {α : Type} {entries : List (String × α)} {name : String} (value : α)
    (fresh : name ∉ entries.map (·.1)) :
    (insertEntry name value entries).Perm ((name, value) :: entries) := by
  induction entries with
  | nil => exact List.Perm.refl _
  | cons head rest ih =>
      obtain ⟨other, kept⟩ := head
      simp only [List.map_cons, List.mem_cons, not_or] at fresh
      obtain ⟨differs, others⟩ := fresh
      simp only [insertEntry, if_neg differs]
      split
      · exact List.Perm.refl _
      · exact ((ih others).cons _).trans (List.Perm.swap _ _ _)

namespace NameMap

variable {α : Type}

theorem perm_foldl_insert (later : List (String × α)) :
    ∀ m : NameMap α, ((m.entries ++ later).map (·.1)).Nodup →
      (later.foldl (fun m entry => m.insert entry.1 entry.2) m).entries.Perm
        (m.entries ++ later) := by
  induction later with
  | nil =>
      intro m _
      simp
  | cons entry rest ih =>
      intro m distinct
      have moved : (entry :: (m.entries ++ rest)).Perm (m.entries ++ entry :: rest) :=
        List.perm_middle.symm
      have apart := (moved.map (·.1)).nodup_iff.mpr distinct
      have fresh : entry.1 ∉ m.entries.map (·.1) := by
        intro taken
        refine (List.nodup_cons.mp apart).1 ?_
        simp only [List.map_append, List.mem_append, taken, true_or]
      have placed : ((m.insert entry.1 entry.2).entries ++ rest).Perm
          (entry :: (m.entries ++ rest)) :=
        (insertEntry_perm entry.2 fresh).append_right rest
      have whole := ih (m.insert entry.1 entry.2) ((placed.map (·.1)).nodup_iff.mpr apart)
      exact whole.trans (placed.trans moved)

/-- A map is the map of its entries, in whatever order they stand. -/
theorem ofList_perm {m : NameMap α} {order : List (String × α)} (perm : order.Perm m.entries) :
    ofList order = m := by
  have apart : (m.entries.map (·.1)).Nodup := by
    refine List.pairwise_map.mpr (m.sorted.imp ?_)
    intro first second before same
    rw [same] at before
    exact String.lt_irrefl _ before
  have distinct : (((empty : NameMap α).entries ++ order).map (·.1)).Nodup :=
    (perm.map Prod.fst).nodup_iff.mpr apart
  have same : (ofList order).entries.Perm m.entries :=
    (perm_foldl_insert order empty distinct).trans perm
  refine ext (same.eq_of_pairwise ?_ (ofList order).sorted m.sorted)
  intro first second _ _ before after
  exact absurd after (String.lt_asymm before)

end NameMap

namespace Json

/-- What is written is plain, and is read back in the given view. -/
structure Restores {α β : Type} (view : α → β) (encode : α → Json) (decode : Json → Option β) :
    Prop where
  read : ∀ a, decode (encode a) = some (view a)
  plain : ∀ a, Plain (encode a)

variable {α β : Type} {view : α → β} {encode : α → Json} {decode : Json → Option β}

/-- A list is read back if each of its elements is. -/
theorem mapM_map_eq {γ δ : Type} {l : List α} {write : α → γ} {read : γ → Option δ} {kept : α → δ}
    (h : ∀ a ∈ l, read (write a) = some (kept a)) :
    (l.map write).mapM read = some (l.map kept) := by
  induction l with
  | nil => rfl
  | cons a rest ih =>
      have head := h a (by simp)
      have tail := ih fun other member => h other (by simp [member])
      simp [List.mapM_cons, head, tail]

theorem restores_text : Restores id text text? :=
  ⟨fun _ => rfl, Plain.text⟩

theorem restores_flag : Restores id Json.bool flag? :=
  ⟨fun _ => rfl, Plain.bool⟩

theorem Restores.list (h : Restores view encode decode) :
    Restores (List.map view) (fun l => .array (l.map encode)) (listOf? decode) where
  read _ := mapM_map_eq fun a _ => h.read a
  plain l := by
    refine Plain.array _ fun item member => ?_
    obtain ⟨a, _, rfl⟩ := List.mem_map.mp member
    exact h.plain a

theorem restores_texts : Restores id texts (listOf? text?) := by
  have each := restores_text.list
  rwa [List.map_id_fun] at each

theorem mapM_members (named : List (String × Json)) :
    (named.map fun (name, value) => (some name, value)).mapM
        (fun (name, value) => name.map (·, value)) = some named := by
  refine (mapM_map_eq fun entry _ => ?_).trans (congrArg some (List.map_id named))
  rfl

theorem Restores.pairs {encode : α → Json} {decode : Json → Option α}
    (h : Restores id encode decode) :
    Restores id (fun l : List (String × α) => members (l.map fun (name, a) => (name, encode a)))
      (pairsOf? decode) where
  read l := by
    simp only [members, pairsOf?, List.map_map]
    refine (mapM_map_eq fun entry _ => ?_).trans (congrArg some (List.map_id l))
    simp [h.read]
  plain l := by
    refine Plain.members _ fun entry member => ?_
    obtain ⟨⟨name, a⟩, _, rfl⟩ := List.mem_map.mp member
    exact h.plain a

theorem Restores.map {encode : α → Json} {decode : Json → Option α}
    (h : Restores id encode decode) : Restores id (ofMap encode) (mapOf? decode) where
  read m := by
    have entries := h.pairs.read m.entries
    simp only [id_eq] at entries
    simp [mapOf?, ofMap, entries, NameMap.ofList_perm (List.Perm.refl _)]
  plain m := h.pairs.plain m.entries

/-! ## Records -/

namespace Record

/-- A record whose fields are written under the declared names is read with these fields. -/
theorem ofJson?_members {declared : List String} {fields : List (String × Json)}
    (named : fields.map (·.1) = declared) (distinct : declared.Nodup) :
    ofJson? declared (members fields) = some ⟨fields⟩ := by
  have kept : fields.filter (fun field => declared.contains field.1) = fields := by
    rw [List.filter_eq_self]
    intro field member
    simpa [← named] using ⟨field.2, member⟩
  simp only [ofJson?, members, mapM_members, kept, named, distinct, if_true, bind, Option.bind]

theorem required_here (name : String) (value : Json) (rest : List (String × Json))
    (decode : Json → Option α) : required ⟨(name, value) :: rest⟩ name decode = decode value := by
  simp [required]

theorem required_there {name other : String} (differs : name ≠ other) (value : Json)
    (rest : List (String × Json)) (decode : Json → Option α) :
    required ⟨(other, value) :: rest⟩ name decode = required ⟨rest⟩ name decode := by
  have skipped : (name == other) = false := by simpa using differs
  simp only [required, List.lookup_cons, skipped]

theorem optional_here (name : String) (value : Json) (rest : List (String × Json)) (default : α)
    (decode : Json → Option α) :
    optional ⟨(name, value) :: rest⟩ name default decode = decode value := by
  simp [optional]

theorem optional_there {name other : String} (differs : name ≠ other) (value : Json)
    (rest : List (String × Json)) (default : α) (decode : Json → Option α) :
    optional ⟨(other, value) :: rest⟩ name default decode =
      optional ⟨rest⟩ name default decode := by
  have skipped : (name == other) = false := by simpa using differs
  simp only [optional, List.lookup_cons, skipped]

end Record

end Json

open Json

namespace Transform

theorem restores_name : Restores id name (nullable? text?) where
  read name? := by cases name? <;> rfl
  plain name? := by
    cases name? with
    | none => exact Plain.null
    | some s => exact Plain.text s

theorem restores : Restores id toJson ofJson? where
  read t := by
    simp (disch := first | simp only [List.map_cons, List.map_nil] | decide +kernel) only [
      ofJson?, toJson, Record.ofJson?_members, Record.optional_here, Record.optional_there,
      Option.pure_def, Option.bind_eq_bind, Option.bind_some, restores_name.read, id_eq]
  plain t := by
    refine Plain.members _ ?_
    simp [restores_name.plain]

end Transform

namespace Interaction

theorem nullable?_texts (l : List String) :
    nullable? (listOf? text?) (texts l) = some (some l) := by
  simpa [nullable?, texts] using restores_texts.read l

theorem restores : Restores id toJson ofJson? where
  read i := by
    obtain ⟨message, newDescription, requires, transforms, unhides, unlocks, discovers⟩ := i
    cases newDescription with
    | none =>
        simp (disch := first | simp only [List.map_cons, List.map_nil] | decide +kernel) only [
          ofJson?, toJson, Record.ofJson?_members, Record.optional_here, Record.optional_there,
          nullable?, Option.pure_def, Option.bind_eq_bind, Option.bind_some, restores_text.read,
          id_eq, restores_texts.read, Transform.restores.list.read, List.map_id_fun]
    | some fragments =>
        simp (disch := first | simp only [List.map_cons, List.map_nil] | decide +kernel) only [
          ofJson?, toJson, Record.ofJson?_members, Record.optional_here, Record.optional_there,
          Option.pure_def, Option.bind_eq_bind, Option.bind_some, restores_text.read, id_eq,
          nullable?_texts, restores_texts.read, Transform.restores.list.read, List.map_id_fun]
  plain i := by
    obtain ⟨message, newDescription, requires, transforms, unhides, unlocks, discovers⟩ := i
    refine Plain.members _ ?_
    cases newDescription with
    | none =>
        simp [Plain.null, restores_text.plain, restores_texts.plain, Transform.restores.list.plain]
    | some fragments =>
        simp [restores_text.plain, restores_texts.plain, Transform.restores.list.plain]

end Interaction

namespace Item

theorem restores : Restores id toJson ofJson? where
  read item := by
    simp (disch := first | simp only [List.map_cons, List.map_nil] | decide +kernel) only [
      ofJson?, toJson, Record.ofJson?_members, Record.required_here, Record.optional_here,
      Record.optional_there, Option.pure_def, Option.bind_eq_bind, Option.bind_some,
      restores_text.read, id_eq, restores_texts.read, restores_text.pairs.read, restores_flag.read,
      Interaction.restores.map.read]
  plain item := by
    refine Plain.members _ ?_
    simp [restores_text.plain, restores_texts.plain, restores_flag.plain,
      restores_text.pairs.plain, Interaction.restores.map.plain]

end Item

namespace Blocker

theorem restores : Restores id toJson ofJson? where
  read b := by
    simp (disch := first | simp only [List.map_cons, List.map_nil] | decide +kernel) only [
      ofJson?, toJson, Record.ofJson?_members, Record.required_here, Record.required_there,
      Option.pure_def, Option.bind_eq_bind, Option.bind_some, restores_text.read, id_eq]
  plain b := by
    refine Plain.members _ ?_
    simp [restores_text.plain]

end Blocker

namespace Room

theorem restores : Restores id toJson ofJson? where
  read room := by
    simp (disch := first | simp only [List.map_cons, List.map_nil] | decide +kernel) only [
      ofJson?, toJson, Record.ofJson?_members, Record.required_here, Record.optional_here,
      Record.optional_there, Option.pure_def, Option.bind_eq_bind, Option.bind_some,
      restores_text.read, id_eq, restores_text.pairs.read, restores_texts.read,
      restores_text.map.read, Blocker.restores.list.read, List.map_id_fun]
  plain room := by
    refine Plain.members _ ?_
    simp [restores_text.plain, restores_texts.plain, restores_text.pairs.plain,
      restores_text.map.plain, Blocker.restores.list.plain]

end Room

namespace Player

theorem restores : Restores id toJson ofJson? where
  read player := by
    simp (disch := first | simp only [List.map_cons, List.map_nil] | decide +kernel) only [
      ofJson?, toJson, Record.ofJson?_members, Record.optional_here, Record.optional_there,
      Option.pure_def, Option.bind_eq_bind, Option.bind_some, restores_text.read, id_eq,
      restores_texts.read, restores_flag.read]
  plain player := by
    refine Plain.members _ ?_
    simp [restores_text.plain, restores_texts.plain, restores_flag.plain]

end Player

namespace Marker

theorem restores : Restores id toJson ofJson? where
  read marker := by
    simp (disch := first | simp only [List.map_cons, List.map_nil] | decide +kernel) only [
      ofJson?, toJson, Record.ofJson?_members, Record.required_here, Record.required_there,
      Record.optional_here, Record.optional_there, Option.pure_def, Option.bind_eq_bind,
      Option.bind_some, restores_text.read, id_eq, restores_flag.read]
  plain marker := by
    refine Plain.members _ ?_
    simp [restores_text.plain, restores_flag.plain]

end Marker

namespace Objective

/-- The objective as a file keeps it. -/
def persisted (objective : Objective) : Objective :=
  { objective with hintCount := 0 }

theorem restores : Restores persisted toJson ofJson? where
  read objective := by
    simp (disch := first | simp only [List.map_cons, List.map_nil] | decide +kernel) only [
      ofJson?, toJson, Record.ofJson?_members, Record.required_here, Record.optional_here,
      Record.optional_there, Option.pure_def, Option.bind_eq_bind, Option.bind_some,
      restores_text.read, id_eq, restores_texts.read, Marker.restores.list.read, List.map_id_fun,
      persisted]
  plain objective := by
    refine Plain.members _ ?_
    simp [restores_text.plain, restores_texts.plain, Marker.restores.list.plain]

end Objective

namespace World

/-- What a save keeps of a world: all but the mark for unsaved changes and the counts of hints. -/
def persisted (w : World) : World :=
  { w with dirty := false, objectives := w.objectives.map Objective.persisted }

end World

/-! ## Texts of files -/

theorem decode_toText {α β : Type} {view : α → β} {encode : α → Json} {ofJson? : Json → Option β}
    (h : Restores view encode ofJson?) (a : α) :
    decode ofJson? (encode a).toText = .ok (view a) := by
  simp [decode, ofText?_toText (h.plain a), h.read]

end TextAdventure
