import ItemAppraisal.Proofs.CaseFolding
import ItemAppraisal.Proofs.Merging
import ItemAppraisal.Types.Catalog

/-!
# Names of one type

Items are merged by their names in capitals, without spaces and tabs at the ends; types are looked up by
names in small letters, without any white space at the ends. Where the two agree on the names of a list,
merging leaves one item for each type, with the quantities of all its spellings (`merge_coherent`). They
do not agree on all names (`merge_incoherent`).
-/

namespace ItemAppraisal

open Text (FoldsBothWays)

namespace ListedItem

/-- The character is a space or a tab. -/
abbrev isSpaceOrTab (c : Char) : Bool :=
  c == ' ' || c == '\t'

/-- A name without white space at its ends other than spaces and tabs, of letters that fold both ways. -/
structure PlainName (name : String) : Prop where
  ends : Text.trim name = Text.trimText isSpaceOrTab name
  letters : ∀ c ∈ (Text.trim name).toList, FoldsBothWays c

/-- The names of two items are one for merging if and only if they are one for a look-up. -/
def KeysAgree (i j : ListedItem) : Prop :=
  i.mergeKey = j.mergeKey ↔ TypeCatalog.nameKey i.name = TypeCatalog.nameKey j.name

theorem plainName_of_ascii {name : String} (ends : Text.trim name = Text.trimText isSpaceOrTab name)
    (ascii : (Text.trim name).toList.all (·.toNat < 0x80) = true) : PlainName name :=
  ⟨ends, fun c member => Text.foldsBothWays_of_ascii (of_decide_eq_true (List.all_eq_true.1 ascii c member))⟩

theorem keysAgree_of_plain {i j : ListedItem} (hi : PlainName i.name) (hj : PlainName j.name) :
    KeysAgree i j := by
  rw [KeysAgree, mergeKey, mergeKey, trimmedName, trimmedName, ← hi.ends, ← hj.ends]
  exact Text.uppercase_eq_iff hi.letters hj.letters

theorem isBlank_of_spaceOrTab {c : Char} (h : isSpaceOrTab c = true) : Text.isBlank c = true := by
  rw [isSpaceOrTab, Bool.or_eq_true, beq_iff_eq, beq_iff_eq] at h
  rcases h with rfl | rfl <;> decide

theorem trim_trimmedName (i : ListedItem) : Text.trim i.trimmedName = Text.trim i.name :=
  Text.trimText_trimText (fun _ => isBlank_of_spaceOrTab) i.name

/-- Trimming a name changes nothing in how it is looked up. -/
theorem nameKey_of_trimmed {i j : ListedItem} (same : j.name = i.trimmedName) :
    TypeCatalog.nameKey j.name = TypeCatalog.nameKey i.name := by
  rw [TypeCatalog.nameKey, same, trim_trimmedName, TypeCatalog.nameKey]

theorem mergeKey_of_trimmed {i j : ListedItem} (same : j.name = i.trimmedName) :
    j.mergeKey = i.mergeKey := by
  rw [mergeKey, trimmedName_of_trimmed same, mergeKey]

/-! ## Items of one type -/

section OfType

variable {types : TypeCatalog} {t : TypeRecord} {items : List ListedItem}

/-- The items whose names stand for a type. -/
def ofType (types : TypeCatalog) (t : TypeRecord) (items : List ListedItem) : List ListedItem :=
  items.filter fun i => types.byName? i.name == some t

/-- Where the keys agree with that of one item of a type, the items of the type are those with its key. -/
theorem ofType_eq_groupOf {i : ListedItem} (found : types.byName? i.name = some t)
    (agree : ∀ j ∈ items, KeysAgree j i) : ofType types t items = groupOf i.mergeKey items := by
  refine List.filter_congr fun j member => ?_
  have keys : j.mergeKey = i.mergeKey ↔ TypeCatalog.nameKey j.name = TypeCatalog.nameKey i.name :=
    agree j member
  rw [Bool.eq_iff_iff, beq_iff_eq, beq_iff_eq, keys]
  constructor
  · intro same
    rw [TypeCatalog.nameKey_of_byName? same, TypeCatalog.nameKey_of_byName? found]
  · intro same
    rw [TypeCatalog.byName?_congr same, found]

theorem ofType_merge_eq_nil (none : ofType types t items = []) : ofType types t (merge items) = [] := by
  refine List.filter_eq_nil_iff.2 fun m left => ?_
  obtain ⟨-, i, member, -, name⟩ := exists_of_mem_merge left
  rw [TypeCatalog.byName?_congr (nameKey_of_trimmed name)]
  exact List.filter_eq_nil_iff.1 none i member

theorem ofType_merge_eq_groupOf {i : ListedItem} (found : types.byName? i.name = some t)
    (agree : ∀ j ∈ items, KeysAgree j i) :
    ofType types t (merge items) = groupOf i.mergeKey (merge items) := by
  refine ofType_eq_groupOf found fun m left => ?_
  obtain ⟨-, j, member, -, name⟩ := exists_of_mem_merge left
  rw [KeysAgree, mergeKey_of_trimmed name, nameKey_of_trimmed name]
  exact agree j member

theorem length_groupOf_merge_le (key : String) : (groupOf key (merge items)).length ≤ 1 := by
  rw [groupOf_merge]
  cases addAll none (groupOf key (items.filter isNamed)) <;> simp

theorem length_groupOf_merge {key : String} (present : groupOf key (items.filter isNamed) ≠ []) :
    (groupOf key (merge items)).length = 1 := by
  rw [groupOf_merge]
  cases group : groupOf key (items.filter isNamed) with
  | nil => exact absurd group present
  | cons i rest => rw [addAll_none_cons]; rfl

/-- An item that stands for a type with a name has a name itself. -/
theorem isNamed_of_byName? {i : ListedItem} (found : types.byName? i.name = some t) (named : t.name ≠ "") :
    i.isNamed = true := by
  have key := TypeCatalog.nameKey_of_byName? found
  rw [isNamed, Bool.not_eq_true', String.isEmpty_eq_false_iff]
  intro blank
  refine named (Text.lowercase_eq_empty_iff.1 ?_)
  rw [← key, TypeCatalog.nameKey, ← trim_trimmedName, blank]
  rfl

theorem ofType_filter_isNamed (named : t.name ≠ "") :
    ofType types t (items.filter isNamed) = ofType types t items := by
  rw [ofType, ofType, List.filter_filter]
  refine List.filter_congr fun i _ => ?_
  cases found : types.byName? i.name == some t with
  | false => rfl
  | true => rw [isNamed_of_byName? (beq_iff_eq.1 found) named]; rfl

end OfType

end ListedItem

open ListedItem

/-! ## Merging -/

/-- Where the keys of merging and of look-ups agree on the names of a list, merging leaves at most one item
of each type, and of a type that has a name one item with the quantities of all that were there. The keys
agree on all plain names. -/
theorem merge_coherent :
    (∀ i j : ListedItem, PlainName i.name → PlainName j.name → KeysAgree i j) ∧
    ∀ (types : TypeCatalog) (t : TypeRecord) (items : List ListedItem),
      (∀ i ∈ items, ∀ j ∈ items, KeysAgree i j) → (∀ i ∈ items, 0 ≤ i.quantity) →
      totalQuantity (ofType types t items) ≤ Quantity.greatest →
      (ofType types t (merge items)).length ≤ 1 ∧
      (t.name ≠ "" →
        (ofType types t items ≠ [] → (ofType types t (merge items)).length = 1) ∧
        totalQuantity (ofType types t (merge items)) = totalQuantity (ofType types t items)) := by
  refine ⟨fun i j => keysAgree_of_plain, fun types t items agree nonneg bounded => ?_⟩
  by_cases absent : ofType types t items = []
  · rw [ofType_merge_eq_nil absent, absent]
    exact ⟨Nat.zero_le 1, fun _ => ⟨fun present => absurd rfl present, rfl⟩⟩
  · obtain ⟨i, present⟩ := List.exists_mem_of_ne_nil _ absent
    obtain ⟨member, found⟩ := List.mem_filter.1 present
    rw [beq_iff_eq] at found
    have agrees : ∀ j ∈ items, KeysAgree j i := fun j inside => agree j inside i member
    rw [ofType_merge_eq_groupOf found agrees]
    refine ⟨length_groupOf_merge_le _, fun named => ?_⟩
    have group : groupOf i.mergeKey (items.filter isNamed) = ofType types t items := by
      rw [← ofType_filter_isNamed named]
      exact (ofType_eq_groupOf found fun j inside => agrees j (List.mem_of_mem_filter inside)).symm
    refine ⟨fun _ => length_groupOf_merge (by rwa [group]), ?_⟩
    have counted : ∀ j ∈ groupOf i.mergeKey (items.filter isNamed), 0 ≤ j.quantity := fun j inside =>
      nonneg j (List.mem_of_mem_filter (List.mem_of_mem_filter inside))
    rw [totalQuantity_groupOf_merge counted (by rwa [group]), group]

/-! ## Examples of names -/

namespace Spellings

def mineral : TypeRecord := { id := 34, name := "Tritanium" }

def sharpStreet : TypeRecord := { id := 1, name := "Straße" }

def plainStreet : TypeRecord := { id := 2, name := "Strasse" }

def degree : TypeRecord := { id := 3, name := "k" }

def nameless : TypeRecord := { id := 4, name := "" }

/-- The types of the examples. -/
def types : TypeCatalog :=
  .ofEntries ([mineral, sharpStreet, plainStreet, degree, nameless].map .ofRecord) (by decide)

/-- One type in two spellings. -/
def twoSpellings : List ListedItem := [⟨"Tritanium", 10, {}⟩, ⟨" tritanium\t", 5, {}⟩]

/-- Two types whose names are one in capitals. -/
def twoStreets : List ListedItem := [⟨"Strasse", 10, {}⟩, ⟨"Straße", 5, {}⟩]

/-- A letter and the sign of the unit, which has that letter as its small form and is its own capital. -/
def twoDegrees : List ListedItem := [⟨"k", 1, {}⟩, ⟨"\u212a", 2, {}⟩]

/-- A name with a no-break space after it and without. -/
def twoEnds : List ListedItem := [⟨"Tritanium", 1, {}⟩, ⟨"Tritanium\u00a0", 2, {}⟩]

/-- An item without a name. -/
def unnamed : List ListedItem := [⟨"", 7, {}⟩]

theorem ofType_eq_filter (t : TypeRecord) (items : List ListedItem) :
    ofType types t items = items.filter fun i =>
      [mineral, sharpStreet, plainStreet, degree, nameless].find?
        (Text.lowercase ·.name == TypeCatalog.nameKey i.name) == some t := by
  refine List.filter_congr fun i _ => ?_
  rw [TypeCatalog.byName?_eq_find?]
  rfl

theorem keysAgree_twoSpellings : ∀ i ∈ twoSpellings, ∀ j ∈ twoSpellings, KeysAgree i j := by
  have plain : ∀ i ∈ twoSpellings, PlainName i.name := by
    intro i member
    simp only [twoSpellings, List.mem_cons, List.not_mem_nil, or_false] at member
    rcases member with rfl | rfl
    · exact plainName_of_ascii (by decide +kernel) (by decide +kernel)
    · exact plainName_of_ascii (by decide +kernel) (by decide +kernel)
  exact fun i hi j hj => keysAgree_of_plain (plain i hi) (plain j hj)

end Spellings

open Spellings

theorem merge_coherent_two_spellings :
    (∀ i ∈ twoSpellings, ∀ j ∈ twoSpellings, KeysAgree i j) ∧
    totalQuantity (ofType types mineral twoSpellings) = 15 ∧
    (ofType types mineral (merge twoSpellings)).length = 1 ∧
    totalQuantity (ofType types mineral (merge twoSpellings)) = 15 := by
  have before : totalQuantity (ofType types mineral twoSpellings) = 15 := by
    rw [ofType_eq_filter]
    decide +kernel
  have present : ofType types mineral twoSpellings ≠ [] := by
    intro absent
    rw [absent] at before
    exact absurd before (by decide)
  obtain ⟨-, kept⟩ := merge_coherent.2 types mineral twoSpellings keysAgree_twoSpellings (by decide)
    (by rw [before]; decide)
  obtain ⟨one, total⟩ := kept (by decide)
  exact ⟨keysAgree_twoSpellings, before, one present, total.trans before⟩

/-- Merging does not go by type on all names. Two types get mixed up whose names are one in capitals, with
one of them losing its quantity; two items of one type are left if their names differ in a sign that is its
own capital, or in white space other than spaces and tabs at an end; and an item without a name is dropped
although there is a type without one. -/
theorem merge_incoherent :
    (totalQuantity (ofType types sharpStreet twoStreets) = 5 ∧
      totalQuantity (ofType types sharpStreet (merge twoStreets)) = 0 ∧
      totalQuantity (ofType types plainStreet twoStreets) = 10 ∧
      totalQuantity (ofType types plainStreet (merge twoStreets)) = 15) ∧
    (ofType types degree (merge twoDegrees)).length = 2 ∧
    (ofType types mineral (merge twoEnds)).length = 2 ∧
    totalQuantity (ofType types nameless unnamed) = 7 ∧
    totalQuantity (ofType types nameless (merge unnamed)) = 0 := by
  simp only [ofType_eq_filter, merge_eq_map_mergeTable]
  decide +kernel

end ItemAppraisal
