import ItemAppraisal.Json.Parser
import ItemAppraisal.LoadSummary
import ItemAppraisal.Text.Blank
import ItemAppraisal.Text.Case
import ItemAppraisal.Text.Part
import ItemAppraisal.Types.Record
import Std.Data.HashMap
import Std.Data.HashSet

/-!
# The catalog of types

Types in the order in which they were entered, each id once, with an index of their ids and one of their
names. Names are compared in small letters, and a name belongs to the earliest type that carries it. Main
statements: a look-up by name finds the earliest record (`byName?_eq_find?`), one by id finds the record of
that id (`byId?_eq_some_iff`), and `mem_insert` and `byId?_insert`.
-/

namespace ItemAppraisal

/-- A type with its name in small letters. -/
structure CatalogEntry where
  record : TypeRecord
  key : String
  key_eq : key = Text.lowercase record.name

/-- The entry of a record. -/
def CatalogEntry.ofRecord (r : TypeRecord) : CatalogEntry :=
  ⟨r, Text.lowercase r.name, rfl⟩

/-- The first record of each key. -/
def CatalogEntry.index {κ : Type} [BEq κ] [Hashable κ] (key : CatalogEntry → κ)
    (entries : List CatalogEntry) : Std.HashMap κ TypeRecord :=
  entries.foldr (fun e index => index.insert (key e) e.record) ∅

theorem CatalogEntry.getElem?_index {κ : Type} [BEq κ] [LawfulBEq κ] [Hashable κ] [LawfulHashable κ]
    (key : CatalogEntry → κ) (entries : List CatalogEntry) (k : κ) :
    (index key entries)[k]? = (entries.find? (key · == k)).map (·.record) := by
  induction entries with
  | nil => simp [index]
  | cons e entries ih =>
    rw [index, List.foldr_cons, ← index, Std.HashMap.getElem?_insert, ih, List.find?_cons]
    cases key e == k <;> rfl

/-- Types in the order in which they were entered, each id once. -/
structure TypeCatalog where
  entries : List CatalogEntry := []
  distinct : entries.Pairwise (fun a b => a.record.id ≠ b.record.id) := by simp
  /-- The type with each id. -/
  ids : Std.HashMap Int TypeRecord := ∅
  /-- The earliest type with each name in small letters. -/
  names : Std.HashMap String TypeRecord := ∅
  getElem?_ids : ∀ id, ids[id]? = (entries.find? (·.record.id == id)).map (·.record) := by simp
  getElem?_names : ∀ key, names[key]? = (entries.find? (·.key == key)).map (·.record) := by simp

namespace TypeCatalog

/-- The catalog of entries in their order. -/
def ofEntries (entries : List CatalogEntry)
    (distinct : entries.Pairwise fun a b => a.record.id ≠ b.record.id) : TypeCatalog where
  entries
  distinct
  ids := CatalogEntry.index (·.record.id) entries
  names := CatalogEntry.index (·.key) entries
  getElem?_ids := CatalogEntry.getElem?_index _ entries
  getElem?_names := CatalogEntry.getElem?_index _ entries

/-- The records in the order in which they were entered. -/
def records (c : TypeCatalog) : List TypeRecord :=
  c.entries.map (·.record)

/-- The number of types. -/
def size (c : TypeCatalog) : Nat :=
  c.entries.length

/-! ## Look-ups -/

/-- The type with an id. -/
def byId? (c : TypeCatalog) (id : Int) : Option TypeRecord :=
  c.ids[id]?

/-- The key under which a name is looked up: small letters without white space at the ends. -/
def nameKey (name : String) : String :=
  Text.lowercase (Text.trim name)

/-- The earliest type with a name. -/
def byName? (c : TypeCatalog) (name : String) : Option TypeRecord :=
  c.names[nameKey name]?

/-- Whether a type has the name. -/
def hasName (c : TypeCatalog) (name : String) : Bool :=
  (c.byName? name).isSome

/-- The type with a name, or the failure to find one. -/
def require (c : TypeCatalog) (name : String) : Except Error TypeRecord :=
  match c.byName? name with
  | some r => .ok r
  | none => .error (.typeNotFound name)

/-- Whether an id is taken. -/
def hasId (c : TypeCatalog) (id : Int) : Bool :=
  (c.byId? id).isSome

/-- All ids in ascending order. -/
def sortedIds (c : TypeCatalog) : List Int :=
  (c.records.map (·.id)).mergeSort

/-- The types of a group in the order of their ids. -/
def inGroup (c : TypeCatalog) (groupId : Int) : List TypeRecord :=
  (c.records.filter (·.groupId == groupId)).mergeSort fun a b => a.id ≤ b.id

/-! ## Search -/

/-- How well a name matches a search text: 0 for the same text, 1 if it starts with it, 2 if it contains
it. Both are in small letters. -/
def matchBand? (text name : List Char) : Option Nat :=
  if name = text then some 0
  else if text.isPrefixOf name then some 1
  else if Text.contains text name then some 2
  else none

/-- The types whose names contain a text, in any case: those with exactly this name, then those that
start with it, then the others, each ordered by name. -/
def search (c : TypeCatalog) (text : String) : List TypeRecord :=
  let key := (nameKey text).toList
  if key.isEmpty then []
  else
    let found := c.entries.filterMap fun e => (matchBand? key e.key.toList).map (·, e.record)
    (found.mergeSort fun a b => a.1 < b.1 || (a.1 == b.1 && !(b.2.name < a.2.name))).map (·.2)

/-! ## Entering types -/

theorem distinct_append {c : TypeCatalog} {r : TypeRecord} (h : ¬c.hasId r.id = true) :
    (c.entries ++ [CatalogEntry.ofRecord r]).Pairwise fun a b => a.record.id ≠ b.record.id := by
  refine List.pairwise_append.2 ⟨c.distinct, List.pairwise_singleton _ _, fun e he f hf heq => h ?_⟩
  rw [List.mem_singleton.1 hf] at heq
  rw [hasId, byId?, c.getElem?_ids, Option.isSome_map, List.find?_isSome]
  exact ⟨e, he, beq_iff_eq.2 heq⟩

/-- Enters a type at the end, unless its id is taken. -/
def insert (c : TypeCatalog) (r : TypeRecord) : TypeCatalog :=
  if h : c.hasId r.id = true then c else ofEntries (c.entries ++ [.ofRecord r]) (distinct_append h)

/-- The catalog of records that are entered one after the other. -/
def ofRecords (rs : List TypeRecord) : TypeCatalog :=
  rs.foldl insert {}

/-- Whether a record of a file can be entered: a positive id and a name. -/
def isLoadable (r : TypeRecord) : Bool :=
  0 < r.id && !Text.isBlankText r.name

/-- Splits records into the first of each id and the ids of the others: `kept` and `refused` hold those
before, the last one first, and `taken` the ids of those that are kept. -/
def enter (taken : Std.HashSet Int) (kept : List CatalogEntry) (refused : List Int) :
    List TypeRecord → List CatalogEntry × List Int
  | [] => (kept.reverse, refused.reverse)
  | r :: rs =>
    if taken.contains r.id then enter taken kept (r.id :: refused) rs
    else enter (taken.insert r.id) (.ofRecord r :: kept) refused rs

/-- The ids of the records that are kept are distinct if `taken` knows those kept before. -/
theorem enter_distinct {taken : Std.HashSet Int} {kept : List CatalogEntry} {refused : List Int}
    {rs : List TypeRecord} (hk : kept.Pairwise fun a b => a.record.id ≠ b.record.id)
    (ht : ∀ e ∈ kept, taken.contains e.record.id = true) :
    (enter taken kept refused rs).1.Pairwise fun a b => a.record.id ≠ b.record.id := by
  induction rs generalizing taken kept refused with
  | nil => exact List.pairwise_reverse.2 (hk.imp fun h => Ne.symm h)
  | cons r rs ih =>
    rw [enter]
    split
    · exact ih hk ht
    · rename_i hr
      refine ih (List.pairwise_cons.2 ⟨fun e he heq => hr ?_, hk⟩) fun e he => ?_
      · rw [show r.id = e.record.id from heq]
        exact ht e he
      · rw [Std.HashSet.contains_insert, Bool.or_eq_true]
        rcases List.mem_cons.1 he with rfl | he
        · exact .inl (beq_iff_eq.2 rfl)
        · exact .inr (ht e he)

/-- The catalog of a list of records, with what became of them. -/
def load (rs : List TypeRecord) : TypeCatalog × LoadSummary :=
  let loadable := rs.filter isLoadable
  let entered := enter ∅ [] [] loadable
  (ofEntries entered.1 (enter_distinct .nil (by simp)),
    { found := rs.length
      loaded := entered.1.length
      duplicates := entered.2.length
      invalid := rs.length - loadable.length
      notices := entered.2.map .duplicateType })

/-- The catalog of a document: a list of records. -/
def ofJson? (j : Json) : Option (TypeCatalog × LoadSummary) :=
  (j.list? TypeRecord.ofJson?).map load

/-- The catalog of the text of a document. -/
def ofText? (text : String) : Option (TypeCatalog × LoadSummary) :=
  (Json.parse text).bind ofJson?

/-! ## Laws -/

theorem byId?_eq_find? (c : TypeCatalog) (id : Int) :
    c.byId? id = c.records.find? (·.id == id) := by
  rw [byId?, c.getElem?_ids, records, List.find?_map]
  rfl

theorem byName?_eq_find? (c : TypeCatalog) (name : String) :
    c.byName? name = c.records.find? (Text.lowercase ·.name == nameKey name) := by
  have h : ((Text.lowercase ·.name == nameKey name) ∘ CatalogEntry.record) = (·.key == nameKey name) := by
    funext e
    rw [Function.comp_apply, e.key_eq]
  rw [byName?, c.getElem?_names, records, List.find?_map, h]

theorem mem_records_of_byName? {c : TypeCatalog} {name : String} {r : TypeRecord}
    (found : c.byName? name = some r) : r ∈ c.records := by
  rw [byName?_eq_find?] at found
  exact List.mem_of_find?_eq_some found

theorem nameKey_of_byName? {c : TypeCatalog} {name : String} {r : TypeRecord}
    (found : c.byName? name = some r) : nameKey name = Text.lowercase r.name := by
  rw [byName?_eq_find?] at found
  have key := List.find?_some found
  simp only [beq_iff_eq] at key
  exact key.symm

theorem byName?_congr {c : TypeCatalog} {name name' : String} (same : nameKey name = nameKey name') :
    c.byName? name = c.byName? name' := by
  rw [byName?, same, byName?]

theorem hasId_iff {c : TypeCatalog} {id : Int} :
    c.hasId id = true ↔ ∃ r ∈ c.records, r.id = id := by
  simp [hasId, byId?_eq_find?, List.find?_isSome]

theorem records_ofEntries (entries : List CatalogEntry)
    (h : entries.Pairwise fun a b => a.record.id ≠ b.record.id) :
    (ofEntries entries h).records = entries.map (·.record) := rfl

theorem records_distinct (c : TypeCatalog) : c.records.Pairwise fun r s => r.id ≠ s.id :=
  List.pairwise_map.2 c.distinct

theorem byId?_eq_some_iff {c : TypeCatalog} {id : Int} {r : TypeRecord} :
    c.byId? id = some r ↔ r ∈ c.records ∧ r.id = id := by
  rw [byId?_eq_find?]
  constructor
  · intro h
    exact ⟨List.mem_of_find?_eq_some h, by simpa using List.find?_some h⟩
  · rintro ⟨hm, rfl⟩
    have hd := c.records_distinct
    generalize c.records = rs at hm hd
    induction hd with
    | nil => simp at hm
    | @cons s rs hs _ ih =>
      rw [List.find?_cons]
      rcases List.mem_cons.1 hm with rfl | hm
      · simp
      · have : (s.id == r.id) = false := by simpa using hs r hm
        rw [this]
        exact ih hm

theorem mem_records_of_byId? {c : TypeCatalog} {id : Int} {r : TypeRecord} (found : c.byId? id = some r) :
    r ∈ c.records :=
  (byId?_eq_some_iff.1 found).1

/-- A type that is found under an id is found under its own. -/
theorem byId?_of_byId? {c : TypeCatalog} {id : Int} {r : TypeRecord} (found : c.byId? id = some r) :
    c.byId? r.id = some r := by
  rw [(byId?_eq_some_iff.1 found).2]
  exact found

theorem byId?_of_byName? {c : TypeCatalog} {name : String} {r : TypeRecord}
    (found : c.byName? name = some r) : c.byId? r.id = some r :=
  byId?_eq_some_iff.2 ⟨mem_records_of_byName? found, rfl⟩

theorem records_insert (c : TypeCatalog) (r : TypeRecord) :
    (c.insert r).records = if c.hasId r.id then c.records else c.records ++ [r] := by
  rw [insert]
  split
  · rfl
  · rw [records_ofEntries, List.map_append]
    rfl

theorem mem_insert {c : TypeCatalog} {r s : TypeRecord} :
    s ∈ (c.insert r).records ↔ s ∈ c.records ∨ (s = r ∧ c.hasId r.id = false) := by
  rw [records_insert]
  by_cases h : c.hasId r.id = true <;> simp [h]

theorem byId?_insert {c : TypeCatalog} {r : TypeRecord} {id : Int} :
    (c.insert r).byId? id = (c.byId? id).or (if r.id = id then some r else none) := by
  by_cases h : c.hasId r.id = true
  · by_cases hid : r.id = id
    · subst hid
      obtain ⟨t, ht⟩ := Option.isSome_iff_exists.1 h
      simp [insert, h, ht]
    · simp [insert, h, hid]
  · rw [byId?_eq_find?, byId?_eq_find?, records_insert, if_neg h, List.find?_append]
    by_cases hid : r.id = id <;> simp [hid]

/-- Of the records that are entered with one id the first stays. -/
theorem byId?_ofRecords (rs : List TypeRecord) (id : Int) :
    (ofRecords rs).byId? id = rs.find? (·.id == id) := by
  have entered (rs : List TypeRecord) (c : TypeCatalog) :
      (rs.foldl insert c).byId? id = (c.byId? id).or (rs.find? (·.id == id)) := by
    induction rs generalizing c with
    | nil => simp
    | cons r rs ih =>
      rw [List.foldl_cons, ih, byId?_insert, List.find?_cons]
      by_cases own : r.id = id
      · simp [own]
      · simp [own, beq_eq_false_iff_ne.2 own]
  have none : byId? {} id = none := by simp [byId?]
  rw [ofRecords, entered, none, Option.none_or]

theorem mem_of_mem_enter {taken : Std.HashSet Int} {kept : List CatalogEntry} {refused : List Int}
    {rs : List TypeRecord} {e : CatalogEntry} (entered : e ∈ (enter taken kept refused rs).1) :
    e ∈ kept ∨ e.record ∈ rs := by
  induction rs generalizing taken kept refused with
  | nil => exact .inl (List.mem_reverse.1 entered)
  | cons r rs ih =>
    rw [enter] at entered
    split at entered
    · exact (ih entered).imp_right (List.mem_cons_of_mem r)
    · rcases ih entered with before | after
      · rcases List.mem_cons.1 before with rfl | before
        · exact .inr List.mem_cons_self
        · exact .inl before
      · exact .inr (List.mem_cons_of_mem r after)

/-- A catalog of a document holds types with positive ids and names only. -/
theorem isLoadable_of_ofText? {text : String} {c : TypeCatalog} {summary : LoadSummary}
    (loaded : ofText? text = some (c, summary)) {r : TypeRecord} (member : r ∈ c.records) :
    isLoadable r = true := by
  obtain ⟨j, -, read⟩ := Option.bind_eq_some_iff.1 loaded
  obtain ⟨rs, -, entered⟩ := Option.map_eq_some_iff.1 read
  cases entered
  rw [records_ofEntries] at member
  obtain ⟨e, inside, rfl⟩ := List.mem_map.1 member
  rcases mem_of_mem_enter inside with before | after
  · cases before
  · exact (List.mem_filter.1 after).2

theorem pos_of_isLoadable {r : TypeRecord} (loadable : isLoadable r = true) : 0 < r.id := by
  rw [isLoadable, Bool.and_eq_true] at loadable
  exact of_decide_eq_true loadable.1

end TypeCatalog

end ItemAppraisal
