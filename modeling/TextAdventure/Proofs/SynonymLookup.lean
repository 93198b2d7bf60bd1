import Mathlib.Data.List.TakeWhile
import TextAdventure.Proofs.Referents

/-!
# Looking synonyms up

The other words for a command word are looked up in two steps.  The word stands for a keyword, the
one of the first table that lists it; and what is shown are the phrases of the first table, in
another order of the tables, that lists this keyword.  So each synonym stands for a keyword, but it
is shown only if the keyword leads back to it (`synonym_is_looked_up_iff`).  It does wherever each
keyword stands for itself and no phrase is in two tables (`Vocabulary.leadsBack_of_apart`).
-/

set_option autoImplicit false

namespace TextAdventure

theorem NameMap.mem_of_mem_foldl {α : Type} {entries : List (String × α)} {entry : String × α}
    {m : NameMap α} (kept : entry ∈ (entries.foldl (fun m e => m.insert e.1 e.2) m).entries) :
    entry ∈ m.entries ∨ entry ∈ entries := by
  induction entries generalizing m with
  | nil => exact Or.inl kept
  | cons first rest ih =>
      rcases ih kept with early | later
      · rcases mem_insertEntry early with rfl | old
        · exact Or.inr List.mem_cons_self
        · exact Or.inl old
      · exact Or.inr (List.mem_cons_of_mem _ later)

theorem NameMap.mem_of_mem_ofList {α : Type} {entries : List (String × α)} {entry : String × α}
    (kept : entry ∈ (ofList entries).entries) : entry ∈ entries :=
  (mem_of_mem_foldl kept).resolve_left List.not_mem_nil

theorem Text.trim_of_void {s : String} (void : isVoid s = true) : trim s = "" := by
  rw [trim, List.dropWhile_eq_nil_iff.mpr (List.all_eq_true.mp void)]
  rfl

namespace Vocabulary

variable {v : Vocabulary} {phrase keyword table : String}

/-- A table whose phrases count as synonyms lists a phrase. -/
def Offers (v : Vocabulary) (phrase : String) : Prop :=
  ∃ table ∈ synonymTables, v.lists table (normalize phrase) = true

instance (v : Vocabulary) (phrase : String) : Decidable (v.Offers phrase) :=
  inferInstanceAs (Decidable (∃ table ∈ synonymTables, v.lists table (normalize phrase) = true))

/-- A table is the first one asked for synonyms that lists a phrase. -/
structure FirstListed (v : Vocabulary) (phrase table : String) : Prop where
  lists : v.lists table (normalize phrase) = true
  first : ∃ before after, synonymTables = before ++ table :: after ∧
    ∀ earlier ∈ before, v.lists earlier (normalize phrase) = false

/-- The first table asked for synonyms that lists a keyword lists a phrase too. -/
def LeadsBack (v : Vocabulary) (keyword phrase : String) : Prop :=
  ∃ table, v.FirstListed keyword table ∧ v.lists table (normalize phrase) = true

theorem FirstListed.mem (leads : v.FirstListed phrase table) : table ∈ synonymTables := by
  obtain ⟨before, after, split, _⟩ := leads.first
  simp [split]

/-! ## Tables of keywords and tables of synonyms -/

theorem exists_keyword_of_synonymTable :
    ∀ table ∈ synonymTables, ∃ keyword, (table, keyword) ∈ keywordTables := by
  have covered : ∀ table ∈ synonymTables, table ∈ keywordTables.map (·.1) := by decide +kernel
  intro table member
  obtain ⟨entry, known, rfl⟩ := List.mem_map.mp (covered table member)
  exact ⟨entry.2, known⟩

theorem Offers.keyword? (offered : v.Offers phrase) :
    ∃ keyword, v.keyword? phrase = some keyword := by
  obtain ⟨table, member, lists⟩ := offered
  obtain ⟨own, known⟩ := exists_keyword_of_synonymTable table member
  rw [← Option.isSome_iff_exists, Option.isSome_iff_ne_none]
  intro free
  have unlisted := firstListing?_eq_none_iff.mp free (table, own) known
  exact nomatch unlisted.symm.trans lists

theorem firstListed_iff :
    v.FirstListed phrase table ↔
      v.firstListing? (synonymTables.map fun table => (table, table)) phrase = some table := by
  have searched : v.firstListing? (synonymTables.map fun table => (table, table)) phrase =
      synonymTables.find? fun table => v.lists table (normalize phrase) := by
    simp [firstListing?, List.find?_map, Function.comp_def]
  rw [searched, List.find?_eq_some_iff_append]
  constructor
  · rintro ⟨lists, before, after, split, unlisted⟩
    exact ⟨lists, before, after, split, by simpa using unlisted⟩
  · rintro ⟨lists, before, after, split, unlisted⟩
    exact ⟨lists, before, after, split, by simpa using unlisted⟩

/-- What is shown for a keyword has a phrase exactly if the keyword leads back to it. -/
theorem mem_synonyms_iff : normalize phrase ∈ v.synonyms keyword ↔ v.LeadsBack keyword phrase := by
  simp only [LeadsBack, firstListed_iff, lists, List.contains_iff_mem, synonyms]
  cases v.firstListing? (synonymTables.map fun table => (table, table)) keyword with
  | none => simp
  | some table => simp

/-! ## A vocabulary that was read -/

theorem phrases_ofTables {tables : List (String × List String)} {helpLines : List String}
    {normal : String} (listed : normal ∈ (ofTables tables helpLines).phrases table) :
    normal ≠ "" := by
  unfold phrases at listed
  cases found : (ofTables tables helpLines).tables.find? table with
  | none => simp [found] at listed
  | some kept =>
      rw [found, Option.getD_some] at listed
      obtain ⟨before, after, split, _⟩ := List.lookup_eq_some_iff.mp found
      have entry : (table, kept) ∈ (ofTables tables helpLines).tables.entries := by simp [split]
      obtain ⟨_, _, same⟩ := List.mem_map.mp (NameMap.mem_of_mem_ofList entry)
      obtain ⟨rfl, rfl⟩ := Prod.mk.inj same
      simpa using (List.mem_filter.mp listed).2

/-- Tables are kept in normal form, so that no blank phrase is among the synonyms. -/
theorem proper_of_offers_ofTables {tables : List (String × List String)} {helpLines : List String}
    (offered : (ofTables tables helpLines).Offers phrase) : Text.isVoid phrase = false := by
  obtain ⟨table, _, lists⟩ := offered
  rw [← Bool.not_eq_true]
  intro void
  have empty : normalize phrase = "" := by
    rw [normalize, Text.trim_of_void void]
    rfl
  exact phrases_ofTables (List.contains_iff_mem.mp lists) empty

/-! ## A vocabulary whose synonyms all lead back -/

/-- No phrase is in two of the tables whose phrases count as synonyms. -/
def Apart (v : Vocabulary) : Prop :=
  ∀ one ∈ synonymTables, ∀ other ∈ synonymTables,
    ∀ phrase ∈ v.phrases one, phrase ∈ v.phrases other → one = other

instance (v : Vocabulary) : Decidable v.Apart :=
  inferInstanceAs (Decidable (∀ one ∈ synonymTables, ∀ other ∈ synonymTables,
    ∀ phrase ∈ v.phrases one, phrase ∈ v.phrases other → one = other))

theorem exists_table_of_keyword? (means : v.keyword? phrase = some keyword) :
    ∃ table, (table, keyword) ∈ keywordTables ∧ v.lists table (normalize phrase) = true := by
  obtain ⟨entry, found, rfl⟩ := Option.map_eq_some_iff.mp means
  have lists := List.find?_some found
  exact ⟨entry.1, List.mem_of_find?_eq_some found, lists⟩

theorem table_of_keyword_unique {other : String} (one : (table, keyword) ∈ keywordTables)
    (again : (other, keyword) ∈ keywordTables) : table = other := by
  have distinct : (keywordTables.map (·.2)).Nodup := by decide +kernel
  exact congrArg Prod.fst (List.inj_on_of_nodup_map distinct one again rfl)

theorem Offers.firstListed (offered : v.Offers phrase) : ∃ table, v.FirstListed phrase table := by
  simp only [firstListed_iff, ← Option.isSome_iff_exists, Option.isSome_iff_ne_none]
  intro unlisted
  obtain ⟨table, member, lists⟩ := offered
  have free := firstListing?_eq_none_iff.mp unlisted _ (List.mem_map_of_mem member)
  exact nomatch free.symm.trans lists

theorem leadsBack_of_apart (stand : v.KeywordsStand) (apart : v.Apart)
    (means : v.keyword? phrase = some keyword) : v.LeadsBack keyword phrase := by
  have covered : ∀ entry ∈ keywordTables, entry.1 ∈ synonymTables := by decide +kernel
  -- The table that makes the phrase stand for the keyword lists the keyword too.
  obtain ⟨table, known, lists⟩ := exists_table_of_keyword? means
  have own : v.lists table (normalize keyword) = true := by
    obtain ⟨other, also, listed⟩ := exists_table_of_keyword? (stand keyword (keyword?_mem means))
    rwa [table_of_keyword_unique known also]
  -- No other table does, so that it is the first one.
  have offered : v.Offers keyword := ⟨table, covered _ known, own⟩
  obtain ⟨first, leads⟩ := offered.firstListed
  have same : first = table :=
    apart first leads.mem table (covered _ known) _ (List.contains_iff_mem.mp leads.lists)
      (List.contains_iff_mem.mp own)
  exact ⟨first, leads, same ▸ lists⟩

end Vocabulary

namespace Response

theorem names_of_listing {header other : String} {names others : List String}
    (same : listing header names = listing other others) : names = others := by
  have messages := congrArg Response.messages same
  simp only [listing, List.cons_append, List.nil_append, List.cons.injEq] at messages
  refine List.map_injective_iff.mpr ?_ messages.2.2.2
  intro name another line
  exact (String.append_right_inj _).mp (Message.line.inj line)

theorem listing_ne_failure {header text : String} {names : List String} :
    failure text ≠ listing header names := by
  intro same
  exact nomatch congrArg Response.status same

end Response

namespace Game

variable {g : Game} {phrase keyword : String}

/-- The other words for a phrase are shown, and it is one of them. -/
def LooksUp (g : Game) (phrase : String) : Prop :=
  ∃ header names, g.listAliases (some phrase) = .listing header names ∧
    Vocabulary.normalize phrase ∈ names

theorem listAliases_of_void (void : Text.isVoid phrase = true) :
    g.listAliases (some phrase) = .failure (Reply.aliasUnknown phrase) := by
  have lost : (Scene.mk g.world g.vocabulary true).find? phrase = none := by
    rw [Scene.find?_of_player rfl, if_pos void]
  simp only [listAliases, lost]

theorem listAliases_of_keyword (proper : Text.isVoid phrase = false)
    (means : g.vocabulary.keyword? phrase = some keyword)
    (noRoom : g.world.room? keyword = none) (noItem : g.world.nearbyItem? keyword = none) :
    g.listAliases (some phrase) =
      if g.vocabulary.synonyms keyword = [] then .failure (Reply.aliasUnknown keyword)
      else .listing (Reply.aliasesOf keyword) (g.vocabulary.synonyms keyword) := by
  have found : (Scene.mk g.world g.vocabulary true).find? phrase = some keyword := by
    rw [Scene.find?_of_player rfl, proper, Scene.referent?_eq, means]
    rfl
  simp only [listAliases, found, otherNames?, noRoom, noItem]
  cases g.vocabulary.synonyms keyword with
  | nil => rfl
  | cons first others => rfl

theorem not_looksUp_of_failure {text : String}
    (failed : g.listAliases (some phrase) = .failure text) : ¬g.LooksUp phrase := by
  rintro ⟨header, names, listed, -⟩
  exact Response.listing_ne_failure (failed.symm.trans listed)

/-- A synonym stands for a keyword.  Where no room and no item at hand has the keyword for a name,
the synonym is shown among the other words for it exactly if the keyword leads back to it. -/
theorem synonym_is_looked_up_iff (g : Game) {phrase : String}
    (offered : g.vocabulary.Offers phrase) :
    ∃ keyword, g.vocabulary.keyword? phrase = some keyword ∧
      (g.world.room? keyword = none → g.world.nearbyItem? keyword = none →
        (g.LooksUp phrase ↔
          Text.isVoid phrase = false ∧ g.vocabulary.LeadsBack keyword phrase)) := by
  obtain ⟨keyword, means⟩ := offered.keyword?
  refine ⟨keyword, means, fun noRoom noItem => ?_⟩
  rw [← Vocabulary.mem_synonyms_iff]
  cases void : Text.isVoid phrase with
  | true => simp [not_looksUp_of_failure (listAliases_of_void void)]
  | false =>
      have answer := listAliases_of_keyword void means noRoom noItem
      by_cases unlisted : g.vocabulary.synonyms keyword = []
      · rw [if_pos unlisted] at answer
        simp [not_looksUp_of_failure answer, unlisted]
      · rw [if_neg unlisted] at answer
        constructor
        · rintro ⟨header, names, listed, among⟩
          rw [Response.names_of_listing (answer.symm.trans listed)]
          exact ⟨rfl, among⟩
        · rintro ⟨-, among⟩
          exact ⟨_, _, answer, among⟩

end Game

namespace PickleQuest

theorem grab_is_looked_up :
    game.vocabulary.Offers "Grab " ∧ game.vocabulary.keyword? "Grab " = some "take" ∧
      game.world.room? "take" = none ∧ game.world.nearbyItem? "take" = none ∧
      game.LooksUp "Grab " := by
  have known : game.vocabulary.Offers "Grab " ∧ game.vocabulary.keyword? "Grab " = some "take" ∧
      game.world.room? "take" = none ∧ game.world.nearbyItem? "take" = none ∧
      Text.isVoid "Grab " = false ∧
      Vocabulary.normalize "Grab " ∈ game.vocabulary.synonyms "take" := by
    decide +kernel
  obtain ⟨offered, means, noRoom, noItem, proper, among⟩ := known
  obtain ⟨keyword, same, looksUp⟩ := game.synonym_is_looked_up_iff offered
  obtain rfl := Option.some.inj (same.symm.trans means)
  have back := Vocabulary.mem_synonyms_iff.mp among
  exact ⟨offered, means, noRoom, noItem, (looksUp noRoom noItem).mpr ⟨proper, back⟩⟩

/-- The map is asked for with two phrases, and the keyword that they stand for is in no table. -/
theorem map_is_not_looked_up :
    game.vocabulary.Offers "map" ∧
      game.vocabulary.keyword? "map" = some "game_map" ∧
      (∀ name ∈ ["map", "game_map"],
        game.world.room? name = none ∧ game.world.nearbyItem? name = none) ∧
      game.listAliases (some "map") = .failure (Reply.aliasUnknown "game_map") ∧
      ¬game.LooksUp "map" := by
  have known : game.vocabulary.Offers "map" ∧
      game.vocabulary.keyword? "map" = some "game_map" ∧
      (∀ name ∈ ["map", "game_map"],
        game.world.room? name = none ∧ game.world.nearbyItem? name = none) ∧
      game.listAliases (some "map") = .failure (Reply.aliasUnknown "game_map") := by
    decide +kernel
  obtain ⟨offered, means, unnamed, failed⟩ := known
  exact ⟨offered, means, unnamed, failed, Game.not_looksUp_of_failure failed⟩

/-- With that keyword in its table, every synonym is led back to. -/
theorem selfNaming_leads_back {phrase keyword : String}
    (means : selfNaming.keyword? phrase = some keyword) : selfNaming.LeadsBack keyword phrase :=
  Vocabulary.leadsBack_of_apart keywordsStand_selfNaming (by decide +kernel) means

end PickleQuest

end TextAdventure
