import ItemAppraisal.Types.Catalog
import Mathlib.Data.List.Induction

/-!
# Loading types

The records of a document enter the catalog one after another (`load_concat`). Of the records with one id
the first that can be entered is kept and every other one is refused, and a name finds the earliest record
that is kept (`catalog_of_document`). Each record is counted once: as loaded, as a duplicate or as invalid.
-/

namespace ItemAppraisal

namespace TypeCatalog

/-- The records of the text of a document. -/
def recordsOf? (text : String) : Option (List TypeRecord) :=
  (Json.parse text).bind (·.list? TypeRecord.ofJson?)

theorem ofText?_eq (text : String) : ofText? text = (recordsOf? text).map load := by
  rw [ofText?, recordsOf?]
  cases Json.parse text <;> rfl

/-! ## One record after another -/

/-- What one more record does to a catalog and to the summary of its loading. -/
def offer (state : TypeCatalog × LoadSummary) (r : TypeRecord) : TypeCatalog × LoadSummary :=
  let (c, summary) := state
  let summary := { summary with found := summary.found + 1 }
  if isLoadable r then
    if c.hasId r.id then
      (c, { summary with
        duplicates := summary.duplicates + 1
        notices := summary.notices ++ [.duplicateType r.id] })
    else (c.insert r, { summary with loaded := summary.loaded + 1 })
  else (c, { summary with invalid := summary.invalid + 1 })

theorem hasId_eq_any (c : TypeCatalog) (id : Int) : c.hasId id = c.entries.any (·.record.id == id) := by
  rw [hasId, byId?, c.getElem?_ids, Option.isSome_map, List.isSome_find?]

/-- A last record is kept or refused, whatever was kept and refused before. -/
theorem enter_concat {taken : Std.HashSet Int} {kept : List CatalogEntry} (refused : List Int)
    (known : ∀ id, taken.contains id = kept.any (·.record.id == id))
    (rs : List TypeRecord) (r : TypeRecord) :
    enter taken kept refused (rs ++ [r]) =
      if (enter taken kept refused rs).1.any (·.record.id == r.id) then
        ((enter taken kept refused rs).1, (enter taken kept refused rs).2 ++ [r.id])
      else ((enter taken kept refused rs).1 ++ [.ofRecord r], (enter taken kept refused rs).2) := by
  induction rs generalizing taken kept refused with
  | nil =>
    simp only [List.nil_append, enter, known, List.any_reverse]
    split <;> simp
  | cons s rs ih =>
    simp only [List.cons_append, enter]
    by_cases there : taken.contains s.id = true
    · simp only [there, if_true]
      exact ih _ known
    · simp only [there, Bool.false_eq_true, if_false]
      apply ih
      intro id
      rw [Std.HashSet.contains_insert, known, List.any_cons]
      rfl

theorem load_eq_of_enter {rs : List TypeRecord} {entries : List CatalogEntry} {refused : List Int}
    (entered : enter ∅ [] [] (rs.filter isLoadable) = (entries, refused))
    (distinct : entries.Pairwise fun a b => a.record.id ≠ b.record.id) :
    load rs = (ofEntries entries distinct,
      { found := rs.length
        loaded := entries.length
        duplicates := refused.length
        invalid := rs.length - (rs.filter isLoadable).length
        notices := refused.map .duplicateType }) := by
  simp only [load, entered]

/-- Loading goes through the records in their order. -/
theorem load_concat (rs : List TypeRecord) (r : TypeRecord) : load (rs ++ [r]) = offer (load rs) r := by
  have fewer := List.length_filter_le isLoadable rs
  have unknown : ∀ id, (∅ : Std.HashSet Int).contains id = ([] : List CatalogEntry).any (·.record.id == id) := by
    simp
  have last := enter_concat [] unknown (rs.filter isLoadable) r
  have distinct : (enter ∅ [] [] (rs.filter isLoadable)).1.Pairwise fun a b => a.record.id ≠ b.record.id :=
    enter_distinct .nil (by simp)
  cases entered : enter ∅ [] [] (rs.filter isLoadable) with
  | mk entries refused =>
    rw [entered] at last distinct
    rw [load_eq_of_enter entered distinct, offer]
    by_cases loadable : isLoadable r = true
    · have more : (rs ++ [r]).filter isLoadable = rs.filter isLoadable ++ [r] := by simp [loadable]
      rw [← more] at last
      by_cases there : (ofEntries entries distinct).hasId r.id = true
      · have again : entries.any (·.record.id == r.id) = true := by rwa [hasId_eq_any] at there
        rw [if_pos again] at last
        rw [load_eq_of_enter last distinct, if_pos loadable, if_pos there, more]
        simp
      · have fresh : ¬entries.any (·.record.id == r.id) = true := by rwa [hasId_eq_any] at there
        have distinct' := distinct_append there
        rw [if_neg fresh] at last
        rw [load_eq_of_enter last distinct', if_pos loadable, if_neg there, more, insert, dif_neg there]
        simp [ofEntries]
    · have same : (rs ++ [r]).filter isLoadable = rs.filter isLoadable := by simp [loadable]
      rw [load_eq_of_enter (by rw [same, entered]) distinct, if_neg loadable, same]
      simp only [List.length_append, List.length_singleton]
      congr 2
      omega

/-! ## What a catalog holds -/

/-- The catalog holds the first record of each id in a list, of the records that can be entered, in their
order and nothing else, and a name finds the earliest of them that has it. -/
structure Holds (c : TypeCatalog) (rs : List TypeRecord) : Prop where
  ids : c.records.map (·.id) = ((rs.filter isLoadable).map (·.id)).eraseDups
  first : ∀ id, c.byId? id = rs.find? fun r => isLoadable r && r.id == id
  named : ∀ p : TypeRecord → Bool, c.records.find? p = rs.find? fun r => r ∈ c.records && p r

variable {c : TypeCatalog} {rs : List TypeRecord} {r : TypeRecord}

theorem Holds.isLoadable (holds : c.Holds rs) (member : r ∈ c.records) : isLoadable r = true := by
  have found := byId?_eq_some_iff.2 ⟨member, rfl⟩
  rw [holds.first] at found
  have loadable := List.find?_some found
  simp only [Bool.and_eq_true] at loadable
  exact loadable.1

theorem Holds.hasId_iff (holds : c.Holds rs) {id : Int} :
    c.hasId id = true ↔ ∃ s ∈ rs, TypeCatalog.isLoadable s = true ∧ s.id = id := by
  rw [hasId, holds.first, List.find?_isSome]
  simp

theorem holds_nil : (load []).1.Holds [] := by
  refine ⟨rfl, fun id => ?_, fun p => rfl⟩
  rw [byId?_eq_find?]
  rfl

/-- A record that cannot be entered changes nothing. -/
theorem Holds.concat_unloadable (holds : c.Holds rs) (unloadable : TypeCatalog.isLoadable r = false) :
    c.Holds (rs ++ [r]) := by
  have outside : r ∉ c.records := by
    intro member
    rw [holds.isLoadable member] at unloadable
    cases unloadable
  refine ⟨?_, ?_, ?_⟩
  · simp [holds.ids, unloadable]
  · intro id
    simp [holds.first, List.find?_append, unloadable]
  · intro p
    simp [holds.named, List.find?_append, outside]

/-- Nor does one whose id is taken. -/
theorem Holds.concat_refused (holds : c.Holds rs) (there : c.hasId r.id = true) :
    c.Holds (rs ++ [r]) := by
  obtain ⟨s, member, loadable, same⟩ := holds.hasId_iff.1 there
  refine ⟨?_, ?_, ?_⟩
  · have again : r.id ∈ (rs.filter TypeCatalog.isLoadable).map (·.id) :=
      List.mem_map.2 ⟨s, List.mem_filter.2 ⟨member, loadable⟩, same⟩
    by_cases last : TypeCatalog.isLoadable r = true
    · simp [holds.ids, last, List.eraseDups_append, List.removeAll, again]
    · simp [holds.ids, last]
  · intro id
    rw [holds.first, List.find?_append]
    by_cases own : r.id = id
    · have found : (rs.find? fun t => TypeCatalog.isLoadable t && t.id == id).isSome = true :=
        List.find?_isSome.2 ⟨s, member, by simp [loadable, same, own]⟩
      obtain ⟨t, found⟩ := Option.isSome_iff_exists.1 found
      simp [found]
    · simp [own]
  · intro p
    rw [List.find?_append, ← holds.named]
    by_cases kept : r ∈ c.records ∧ p r = true
    · -- The record is equal to the one that is kept, which comes earlier.
      have found : (c.records.find? p).isSome = true := List.find?_isSome.2 ⟨r, kept⟩
      obtain ⟨t, found⟩ := Option.isSome_iff_exists.1 found
      simp [found]
    · simp [kept]

/-- Any other record comes in as the last one. -/
theorem Holds.concat_entered (holds : c.Holds rs) (loadable : TypeCatalog.isLoadable r = true)
    (fresh : ¬c.hasId r.id = true) : (c.insert r).Holds (rs ++ [r]) := by
  have none : ∀ s ∈ rs, TypeCatalog.isLoadable s = true → s.id ≠ r.id := by
    intro s member entered same
    exact fresh (holds.hasId_iff.2 ⟨s, member, entered, same⟩)
  have records : (c.insert r).records = c.records ++ [r] := by rw [records_insert, if_neg fresh]
  refine ⟨?_, ?_, ?_⟩
  · have new : r.id ∉ (rs.filter TypeCatalog.isLoadable).map (·.id) := by
      intro member
      obtain ⟨s, kept, same⟩ := List.mem_map.1 member
      obtain ⟨inside, entered⟩ := List.mem_filter.1 kept
      exact none s inside entered same
    simp [records, holds.ids, loadable, List.eraseDups_append, List.removeAll, new, List.eraseDups_cons]
  · intro id
    rw [byId?_insert, holds.first, List.find?_append]
    by_cases own : r.id = id <;> simp [own, loadable]
  · intro p
    have before : (rs.find? fun s => s ∈ (c.insert r).records && p s) =
        rs.find? fun s => s ∈ c.records && p s := by
      rw [← List.head?_filter, ← List.head?_filter]
      congr 1
      refine List.filter_congr fun s member => ?_
      have other : s ≠ r := by
        rintro rfl
        exact none s member loadable rfl
      simp [records, other]
    rw [List.find?_append, before, ← holds.named, records, List.find?_append]
    simp

theorem holds_load (rs : List TypeRecord) : (load rs).1.Holds rs := by
  induction rs using List.reverseRecOn with
  | nil => exact holds_nil
  | append_singleton rs r ih =>
    rw [load_concat, offer]
    by_cases loadable : isLoadable r = true
    · by_cases there : (load rs).1.hasId r.id = true
      · simpa [loadable, there] using ih.concat_refused there
      · simpa [loadable, there] using ih.concat_entered loadable there
    · simpa [loadable] using ih.concat_unloadable (by simpa using loadable)

/-! ## What the summary counts -/

/-- The summary counts each record of a list once, and has a notice for each one that was refused: under
every id one less than there are records of that id that can be entered. -/
structure Accounts (summary : LoadSummary) (c : TypeCatalog) (rs : List TypeRecord) : Prop where
  found : summary.found = rs.length
  balanced : summary.found = summary.loaded + summary.duplicates + summary.invalid
  loaded : summary.loaded = c.size
  invalid : summary.invalid = (rs.filter fun r => !isLoadable r).length
  notices : summary.notices.length = summary.duplicates
  repeated : ∀ id, summary.notices.count (.duplicateType id) =
    (rs.filter fun r => isLoadable r && r.id == id).length - 1

theorem accounts_offer {summary : LoadSummary} (holds : c.Holds rs) (accounts : Accounts summary c rs) :
    Accounts (offer (c, summary) r).2 (offer (c, summary) r).1 (rs ++ [r]) := by
  have found := accounts.found
  have balanced := accounts.balanced
  by_cases loadable : isLoadable r = true
  · by_cases there : c.hasId r.id = true
    · simp only [offer, loadable, there, if_true]
      refine ⟨by simp [found], by simp; omega, accounts.loaded, ?_, ?_, ?_⟩
      · simp [accounts.invalid, loadable]
      · simp [accounts.notices]
      · intro id
        rw [List.count_append, accounts.repeated, List.filter_append, List.length_append]
        by_cases own : r.id = id
        · obtain ⟨s, member, entered, same⟩ := holds.hasId_iff.1 there
          have filled : 0 < (rs.filter fun t => isLoadable t && t.id == id).length :=
            List.length_pos_of_mem (List.mem_filter.2 ⟨member, by simp [entered, same, own]⟩)
          simp [loadable, own]
          omega
        · simp [own]
    · have none : ∀ s ∈ rs, isLoadable s = true → s.id ≠ r.id := by
        intro s member entered same
        exact there (holds.hasId_iff.2 ⟨s, member, entered, same⟩)
      have size : (c.insert r).size = c.size + 1 := by rw [insert, dif_neg there]; simp [ofEntries, size]
      simp only [offer, loadable, there, if_true, Bool.false_eq_true, if_false]
      refine ⟨by simp [found], by simp; omega, ?_, ?_, accounts.notices, ?_⟩
      · simp [size, accounts.loaded]
      · simp [accounts.invalid, loadable]
      · intro id
        rw [accounts.repeated, List.filter_append, List.length_append]
        by_cases own : r.id = id
        · have alone : (rs.filter fun t => isLoadable t && t.id == id) = [] := by
            rw [List.filter_eq_nil_iff]
            intro s member
            have other := none s member
            rw [own] at other
            simpa using other
          simp [alone, loadable, own]
        · simp [own]
  · simp only [offer, loadable, Bool.false_eq_true, if_false]
    refine ⟨by simp [found], by simp; omega, accounts.loaded, ?_, accounts.notices, ?_⟩
    · simp [accounts.invalid, loadable]
    · intro id
      simp [accounts.repeated, loadable]

theorem accounts_load (rs : List TypeRecord) : Accounts (load rs).2 (load rs).1 rs := by
  induction rs using List.reverseRecOn with
  | nil => exact ⟨rfl, rfl, rfl, rfl, rfl, fun id => rfl⟩
  | append_singleton rs r ih =>
    rw [load_concat]
    exact accounts_offer (holds_load rs) ih

end TypeCatalog

open TypeCatalog

/-- The catalog of a list of records holds under every positive id the first record of the list with that id
and a name, and nothing else. A name finds the earliest record of the list that the catalog holds and that
has it in small letters, and that record stands under its own id. A record whose id is taken leaves the
catalog as it was. Every record is counted as loaded, as a duplicate, with a notice for its id, or as
invalid. -/
theorem catalog_of_document (text : String) (rs : List TypeRecord) (listed : recordsOf? text = some rs) :
    ∃ c summary, ofText? text = some (c, summary) ∧
      (∀ id, 0 < id → c.byId? id = rs.find? fun r => r.id == id && !Text.isBlankText r.name) ∧
      (∀ id, id ≤ 0 → c.byId? id = none) ∧
      (∀ r, r ∈ c.records ↔ c.byId? r.id = some r) ∧
      c.records.map (·.id) = ((rs.filter isLoadable).map (·.id)).eraseDups ∧
      (∀ name, c.byName? name = rs.find? fun r =>
        r ∈ c.records && Text.lowercase r.name == Text.lowercase (Text.trim name)) ∧
      (∀ name r, c.byName? name = some r → c.byId? r.id = some r) ∧
      (∀ before r after, rs = before ++ r :: after → (load before).1.hasId r.id = true →
        (load before).1.insert r = (load before).1 ∧ (load (before ++ [r])).1 = (load before).1) ∧
      Accounts summary c rs := by
  have holds := holds_load rs
  refine ⟨(load rs).1, (load rs).2, by rw [ofText?_eq, listed]; rfl, ?_, ?_, ?_, holds.ids, ?_, ?_, ?_,
    accounts_load rs⟩
  · intro id positive
    rw [holds.first, ← List.head?_filter, ← List.head?_filter]
    congr 1
    refine List.filter_congr fun r _ => ?_
    by_cases own : r.id = id
    · simp [isLoadable, own, positive]
    · have other : (r.id == id) = false := by simpa using own
      simp [other]
  · intro id negative
    rw [holds.first, List.find?_eq_none]
    intro r _ kept
    simp [isLoadable] at kept
    omega
  · intro r
    simp [byId?_eq_some_iff]
  · intro name
    rw [byName?_eq_find?, holds.named, nameKey]
  · intro name r found
    exact byId?_of_byName? found
  · intro before r after _ there
    refine ⟨dif_pos there, ?_⟩
    rw [load_concat]
    by_cases loadable : isLoadable r = true <;> simp [offer, loadable, there]

/-! ## A document that repeats an id -/

namespace RepeatedId

def mineral : TypeRecord := { id := 34, groupId := 18, name := "Tritanium", portionSize := 1 }

def again : TypeRecord := { id := 34, groupId := 18, name := "Tritanium Again" }

def alloy : TypeRecord := { id := 36, name := "Mexallon" }

/-- A document of the three, with a record without a name and one without an id between them. -/
def document : String :=
  "[\x7b\"id\":34,\"name\":\"Tritanium\",\"group_id\":18,\"portion_size\":1\x7d," ++
    "\x7b\"id\":34,\"name\":\"Tritanium Again\",\"group_id\":18\x7d," ++
    "\x7b\"id\":0,\"name\":\"No Id\"\x7d,\x7b\"id\":35,\"name\":\"  \"\x7d," ++
    "\x7b\"id\":36,\"name\":\"Mexallon\"\x7d]"

def listed : List TypeRecord := [mineral, again, { name := "No Id" }, { id := 35, name := "  " }, alloy]

theorem recordsOf?_document : recordsOf? document = some listed := by decide +kernel

end RepeatedId

open RepeatedId

theorem catalog_of_document_repeating_id :
    recordsOf? document = some listed ∧
    ∃ c summary, ofText? document = some (c, summary) ∧
      c.byId? 34 = some mineral ∧ c.byId? 35 = none ∧ c.byId? 36 = some alloy ∧
      c.byName? " TRITANIUM" = some mineral ∧ c.byName? "Tritanium Again" = none ∧
      summary.loaded = 2 ∧ summary.duplicates = 1 ∧ summary.invalid = 2 := by
  refine ⟨recordsOf?_document, ?_⟩
  obtain ⟨c, summary, loaded, first, -, only, ids, named, -, -, accounts⟩ :=
    catalog_of_document document listed recordsOf?_document
  have tritanium : c.byId? 34 = some mineral := by rw [first 34 (by decide)]; decide +kernel
  have blank : c.byId? 35 = none := by rw [first 35 (by decide)]; decide +kernel
  have mexallon : c.byId? 36 = some alloy := by rw [first 36 (by decide)]; decide +kernel
  have kept : mineral ∈ c.records := (only mineral).2 tritanium
  have refused : again ∉ c.records := by
    intro member
    have found := (only again).1 member
    rw [show again.id = 34 from rfl, tritanium] at found
    exact absurd found (by decide +kernel)
  have size : c.size = 2 := by
    have two : ((listed.filter isLoadable).map (·.id)).eraseDups.length = 2 := by decide +kernel
    rw [← ids, List.length_map] at two
    simpa [TypeCatalog.records, TypeCatalog.size] using two
  have invalid : summary.invalid = 2 := by rw [accounts.invalid]; decide +kernel
  have found : summary.found = 5 := accounts.found
  have loadedTwo : summary.loaded = 2 := accounts.loaded.trans size
  have balanced := accounts.balanced
  refine ⟨c, summary, loaded, tritanium, blank, mexallon, ?_, ?_, loadedTwo, by omega, invalid⟩
  · have spelled : Text.lowercase mineral.name = Text.lowercase (Text.trim " TRITANIUM") := by decide +kernel
    rw [named, listed, List.find?_cons_of_pos (by simp [kept, spelled])]
  · rw [named, List.find?_eq_none]
    have others : ∀ r ∈ listed, r ≠ again →
        Text.lowercase r.name ≠ Text.lowercase (Text.trim "Tritanium Again") := by decide +kernel
    intro r member found
    simp only [Bool.and_eq_true, decide_eq_true_eq, beq_iff_eq] at found
    by_cases same : r = again
    · exact refused (same ▸ found.1)
    · exact others r member same found.2

end ItemAppraisal
