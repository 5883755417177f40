import ItemAppraisal.Item.Merge
import ItemAppraisal.Proofs.Trimming
import ItemAppraisal.Quantity

/-!
# Merged items

Merging groups items by their keys: of each group one item is left, that of the first one with the
quantities of all (`groupOf_merge`). So keys stay apart, an item that is left has the name of one that was
there (`exists_of_mem_merge`), and the quantities of a group add up as long as their sum is in the range
(`totalQuantity_groupOf_merge`).
-/

namespace ItemAppraisal

namespace ListedItem

/-! ## Rows -/

theorem trimmedName_of_trimmed {i j : ListedItem} (same : j.name = i.trimmedName) :
    j.trimmedName = i.trimmedName := by
  rw [trimmedName, same, trimmedName, Text.trimText_trimText fun _ => id]

theorem countedQuantity_nonneg (i : ListedItem) : 0 ≤ i.countedQuantity :=
  Int.le_max_right _ _

theorem countedQuantity_of_nonneg {i : ListedItem} (nonneg : 0 ≤ i.quantity) :
    i.countedQuantity = i.quantity :=
  Int.max_eq_left nonneg

theorem forall_counted_nonneg (items : List ListedItem) : ∀ a ∈ items.map countedQuantity, 0 ≤ a :=
  List.forall_mem_map.2 fun i _ => i.countedQuantity_nonneg

/-- A row after items are added to it. -/
def addAll (row : Option ListedItem) (items : List ListedItem) : Option ListedItem :=
  items.foldl (fun row i => some (i.addedTo row)) row

theorem addAll_some (j : ListedItem) (items : List ListedItem) :
    addAll (some j) items =
      some { j with quantity := (items.map countedQuantity).foldl Quantity.add j.quantity } := by
  induction items generalizing j with
  | nil => rfl
  | cons i items ih =>
    rw [addAll, List.foldl_cons, ← addAll, addedTo, ih]
    rfl

/-- The first item of a row gives its name and details, and all of them give their quantities. -/
theorem addAll_none_cons (i : ListedItem) (items : List ListedItem) :
    addAll none (i :: items) = some { i with
      name := i.trimmedName
      quantity := (items.map countedQuantity).foldl Quantity.add i.countedQuantity } :=
  addAll_some _ items

/-- The units of a row stop at the greatest quantity. -/
theorem addAll_none_eq {i : ListedItem} (rest : List ListedItem) (bounded : i.quantity ≤ Quantity.greatest) :
    addAll none (i :: rest) = some { i with
      name := i.trimmedName
      quantity := min (((i :: rest).map countedQuantity).foldr (· + ·) 0) Quantity.greatest } := by
  have small : i.countedQuantity ≤ Quantity.greatest := by
    simp only [countedQuantity, Quantity.greatest] at bounded ⊢
    omega
  rw [addAll_none_cons, List.map_cons, List.foldr_cons,
    Quantity.foldl_add i.countedQuantity_nonneg small (forall_counted_nonneg rest)]

/-- The items with a key. -/
def groupOf (key : String) (items : List ListedItem) : List ListedItem :=
  items.filter (·.mergeKey == key)

theorem get?_foldl_addToTable (table : Table String ListedItem) (items : List ListedItem)
    (key : String) :
    (items.foldl addToTable table).get? key = addAll (table.get? key) (groupOf key items) := by
  induction items generalizing table with
  | nil => rfl
  | cons i items ih =>
    rw [List.foldl_cons, ih, addToTable, Table.get?_insert, groupOf, groupOf, List.filter_cons]
    by_cases same : i.mergeKey = key
    · subst same
      simp [addAll]
    · rw [if_neg (Ne.symm same), if_neg (by simpa using same)]

theorem get?_mergeTable (items : List ListedItem) (key : String) :
    (mergeTable items).get? key = addAll none (groupOf key (items.filter isNamed)) :=
  get?_foldl_addToTable [] _ key

theorem keys_mergeTable_nodup (items : List ListedItem) : (mergeTable items).keys.Nodup := by
  have grows (items : List ListedItem) {table : Table String ListedItem} (nodup : table.keys.Nodup) :
      (items.foldl addToTable table).keys.Nodup := by
    induction items generalizing table with
    | nil => exact nodup
    | cons i items ih => exact ih (Table.keys_insert_nodup nodup _ _)
  exact grows _ List.nodup_nil

theorem addAll_none_eq_some {items : List ListedItem} {j : ListedItem} (row : addAll none items = some j) :
    0 ≤ j.quantity ∧ ∃ i ∈ items, j.name = i.trimmedName := by
  cases items with
  | nil => cases row
  | cons i items =>
    rw [addAll_none_cons] at row
    obtain rfl := Option.some.inj row
    exact ⟨Quantity.foldl_add_nonneg i.countedQuantity_nonneg (forall_counted_nonneg items), i,
      List.mem_cons_self, rfl⟩

theorem mergeKey_of_mem_mergeTable {items : List ListedItem} {key : String} {j : ListedItem}
    (row : (mergeTable items).get? key = some j) : j.mergeKey = key := by
  rw [get?_mergeTable] at row
  obtain ⟨-, i, member, name⟩ := addAll_none_eq_some row
  rw [mergeKey, trimmedName_of_trimmed name, ← mergeKey]
  exact beq_iff_eq.1 (List.mem_filter.1 member).2

/-! ## Groups -/

/-- Of the items with a key at most one is left, which has the name and the details of the first of them
and the quantities of all. -/
theorem groupOf_merge (items : List ListedItem) (key : String) :
    groupOf key (merge items) = (addAll none (groupOf key (items.filter isNamed))).toList := by
  have nodup := keys_mergeTable_nodup items
  have rows : (mergeTable items).filter ((·.mergeKey == key) ∘ Prod.snd) =
      (mergeTable items).filter (·.1 == key) := by
    refine List.filter_congr fun pair member => ?_
    have row := Table.get?_of_mem nodup member
    rw [Function.comp_apply, mergeKey_of_mem_mergeTable row]
  rw [merge_eq_map_mergeTable, groupOf, List.filter_map, rows, Table.filter_key_eq _ nodup,
    get?_mergeTable]

theorem find?_merge (items : List ListedItem) (key : String) :
    (merge items).find? (·.mergeKey == key) = addAll none (groupOf key (items.filter isNamed)) := by
  rw [← List.head?_filter, ← groupOf, groupOf_merge, Option.head?_toList]

theorem exists_of_mem_merge {items : List ListedItem} {j : ListedItem} (member : j ∈ merge items) :
    0 ≤ j.quantity ∧ ∃ i ∈ items, i.isNamed = true ∧ j.name = i.trimmedName := by
  have inGroup : j ∈ groupOf j.mergeKey (merge items) :=
    List.mem_filter.2 ⟨member, beq_self_eq_true _⟩
  rw [groupOf_merge, Option.mem_toList] at inGroup
  obtain ⟨nonneg, i, found, name⟩ := addAll_none_eq_some inGroup
  obtain ⟨inItems, named⟩ := List.mem_filter.1 (List.mem_filter.1 found).1
  exact ⟨nonneg, i, inItems, named, name⟩

/-- The sum of the quantities. -/
def totalQuantity (items : List ListedItem) : Int :=
  (items.map (·.quantity)).foldr (· + ·) 0

theorem totalQuantity_groupOf_merge {items : List ListedItem} {key : String}
    (nonneg : ∀ i ∈ groupOf key (items.filter isNamed), 0 ≤ i.quantity)
    (bounded : totalQuantity (groupOf key (items.filter isNamed)) ≤ Quantity.greatest) :
    totalQuantity (groupOf key (merge items)) = totalQuantity (groupOf key (items.filter isNamed)) := by
  rw [groupOf_merge]
  generalize groupOf key (items.filter isNamed) = group at bounded nonneg
  cases group with
  | nil => rfl
  | cons i rest =>
    obtain ⟨first, others⟩ := List.forall_mem_cons.1 nonneg
    have amounts : rest.map countedQuantity = rest.map (·.quantity) :=
      List.map_congr_left fun k member => countedQuantity_of_nonneg (others k member)
    have positive : ∀ a ∈ rest.map (·.quantity), 0 ≤ a := List.forall_mem_map.2 others
    have total := Quantity.sum_nonneg positive
    rw [addAll_none_cons, amounts, countedQuantity_of_nonneg first]
    simp only [totalQuantity, Option.toList_some, List.map_cons, List.map_nil, List.foldr_cons,
      List.foldr_nil] at bounded ⊢
    rw [Quantity.foldl_add first (by omega) positive]
    omega

/-! ## Units of a name -/

/-- The units that items with a name have under a key, negative quantities counted as zero. -/
def unitsUnder (key : String) (items : List ListedItem) : Int :=
  ((groupOf key (items.filter isNamed)).map countedQuantity).foldr (· + ·) 0

/-- The quantity of the first item with a key, zero if there is none. -/
def quantityUnder (key : String) (items : List ListedItem) : Int :=
  (items.find? (·.mergeKey == key)).elim 0 (·.quantity)

theorem unitsUnder_nonneg (key : String) (items : List ListedItem) : 0 ≤ unitsUnder key items :=
  Quantity.sum_nonneg (forall_counted_nonneg _)

theorem unitsUnder_append (key : String) (items more : List ListedItem) :
    unitsUnder key (items ++ more) = unitsUnder key items + unitsUnder key more := by
  rw [unitsUnder, groupOf, List.filter_append, List.filter_append, List.map_append, Quantity.sum_append]
  rfl

theorem unitsUnder_perm {items items' : List ListedItem} (perm : items.Perm items') (key : String) :
    unitsUnder key items = unitsUnder key items' :=
  Quantity.sum_perm (((perm.filter _).filter _).map _)

/-- After merging a name has the units of all its items, up to the greatest quantity. -/
theorem quantityUnder_merge {items : List ListedItem} (bounded : ∀ i ∈ items, i.quantity ≤ Quantity.greatest)
    (key : String) :
    quantityUnder key (merge items) = min (unitsUnder key items) Quantity.greatest := by
  rw [quantityUnder, find?_merge, unitsUnder]
  cases group : groupOf key (items.filter isNamed) with
  | nil => decide
  | cons i rest =>
    have among : i ∈ groupOf key (items.filter isNamed) := group ▸ List.mem_cons_self
    rw [addAll_none_eq rest (bounded i (List.mem_of_mem_filter (List.mem_of_mem_filter among)))]
    rfl

end ListedItem

end ItemAppraisal
