import ItemAppraisal.Proofs.Merging

/-!
# Laws of merging

Merging is determined by its keys: they are those of the items with a name, each once and in the order of
first appearance (`map_mergeKey_merge`), and each stands for the first item of its group with the units of
all of them (`merge_eq`). So it does not matter whether items are merged at once, again, or part by part,
and their order decides only in which order and under which spelling they are left (`merge_laws`).
-/

namespace ItemAppraisal

namespace ListedItem

/-! ## Keys -/

/-- The keys of items with a name, each once, in the order of first appearance. -/
def keysOf (items : List ListedItem) : List String :=
  ((items.filter isNamed).map mergeKey).eraseDups

theorem keys_foldl_addToTable (table : Table String ListedItem) (items : List ListedItem) :
    (items.foldl addToTable table).keys =
      table.keys ++ ((items.map mergeKey).filter fun key => !table.keys.contains key).eraseDups := by
  induction items generalizing table with
  | nil => simp
  | cons i items ih =>
    rw [List.foldl_cons, ih, addToTable, Table.keys_insert, List.map_cons]
    by_cases there : i.mergeKey ∈ table.keys
    · simp [there]
    · have others : ((items.map mergeKey).filter fun key => !(table.keys ++ [i.mergeKey]).contains key) =
          ((items.map mergeKey).filter fun key => !table.keys.contains key).filter (!· == i.mergeKey) := by
        rw [List.filter_filter]
        refine List.filter_congr fun key _ => ?_
        rw [Bool.eq_iff_iff]
        simp [and_comm]
      rw [if_neg there, others, List.filter_cons_of_pos (by simpa using there), List.eraseDups_cons,
        List.append_assoc, List.singleton_append]

theorem keys_mergeTable (items : List ListedItem) : (mergeTable items).keys = keysOf items := by
  rw [mergeTable, keys_foldl_addToTable, keysOf]
  simp [Table.keys]

theorem mem_keysOf {items : List ListedItem} {key : String} :
    key ∈ keysOf items ↔ groupOf key (items.filter isNamed) ≠ [] := by
  simp [keysOf, groupOf, and_assoc, and_comm]

theorem map_mergeKey_merge (items : List ListedItem) : (merge items).map mergeKey = keysOf items := by
  rw [← keys_mergeTable, merge_eq_map_mergeTable, List.map_map, Table.keys]
  refine List.map_congr_left fun pair member => ?_
  exact mergeKey_of_mem_mergeTable (Table.get?_of_mem (keys_mergeTable_nodup items) member)

/-- One item for each key, made of the items that have it. -/
theorem merge_eq (items : List ListedItem) : merge items =
    (keysOf items).filterMap fun key => addAll none (groupOf key (items.filter isNamed)) := by
  rw [merge_eq_map_mergeTable, ← Table.filterMap_get?_keys _ (keys_mergeTable_nodup items), keys_mergeTable]
  congr 1
  funext key
  exact get?_mergeTable items key

/-! ## What is left -/

theorem filter_isNamed_merge (items : List ListedItem) : (merge items).filter isNamed = merge items := by
  refine List.filter_eq_self.2 fun j member => ?_
  obtain ⟨-, i, -, named, name⟩ := exists_of_mem_merge member
  rwa [isNamed, trimmedName_of_trimmed name]

/-- An item stands for its key: it is the first item of the key with its name trimmed and with the units of
all items of the key, up to the greatest quantity. -/
def StandsFor (j : ListedItem) (items : List ListedItem) : Prop :=
  ∃ first rest, groupOf j.mergeKey (items.filter isNamed) = first :: rest ∧
    j = { first with
      name := first.trimmedName
      quantity := min (unitsUnder j.mergeKey items) Quantity.greatest }

section

variable {items : List ListedItem} (bounded : ∀ i ∈ items, i.quantity ≤ Quantity.greatest)
include bounded

theorem bounded_groupOf (key : String) :
    ∀ i ∈ groupOf key (items.filter isNamed), i.quantity ≤ Quantity.greatest := fun i member =>
  bounded i (List.mem_of_mem_filter (List.mem_of_mem_filter member))

theorem standsFor_of_mem_merge {j : ListedItem} (member : j ∈ merge items) : j.StandsFor items := by
  have row : j ∈ groupOf j.mergeKey (merge items) := List.mem_filter.2 ⟨member, beq_self_eq_true _⟩
  rw [groupOf_merge, Option.mem_toList] at row
  have small := bounded_groupOf bounded j.mergeKey
  rw [StandsFor, unitsUnder]
  cases group : groupOf j.mergeKey (items.filter isNamed) with
  | nil => rw [group] at row; cases row
  | cons first rest =>
    rw [group] at row small
    rw [addAll_none_eq rest (small first List.mem_cons_self)] at row
    exact ⟨first, rest, rfl, (Option.some.inj row).symm⟩

end

/-! ## Part by part -/

/-- What is merged stays as it is when it is merged alone. -/
theorem addAll_none_of_merged {items : List ListedItem} {j : ListedItem} (merged : addAll none items = some j) :
    addAll none [j] = some j := by
  obtain ⟨nonneg, i, -, name⟩ := addAll_none_eq_some merged
  have trimmed : j.trimmedName = j.name := (trimmedName_of_trimmed name).trans name.symm
  rw [addAll_none_cons, trimmed, countedQuantity_of_nonneg nonneg]
  rfl

/-- A row has a quantity that it can have. -/
def RowInRange (row : Option ListedItem) : Prop :=
  ∀ j ∈ row, 0 ≤ j.quantity ∧ j.quantity ≤ Quantity.greatest

theorem addAll_append (row : Option ListedItem) (items more : List ListedItem) :
    addAll row (items ++ more) = addAll (addAll row items) more :=
  List.foldl_append

section

variable {group : List ListedItem} {row : Option ListedItem}
  (bounded : ∀ i ∈ group, i.quantity ≤ Quantity.greatest) (inRange : RowInRange row)
include bounded inRange

theorem addAll_inRange : RowInRange (addAll row group) := by
  cases row with
  | none =>
    cases group with
    | nil => exact inRange
    | cons i rest =>
      intro j found
      refine ⟨(addAll_none_eq_some found).1, ?_⟩
      rw [addAll_none_eq rest (bounded i List.mem_cons_self)] at found
      obtain rfl := Option.some.inj found
      exact Int.min_le_right _ _
  | some k =>
    obtain ⟨nonneg, small⟩ := inRange k rfl
    intro j found
    rw [addAll_some] at found
    obtain rfl := Option.some.inj found
    refine ⟨Quantity.foldl_add_nonneg nonneg (forall_counted_nonneg group), ?_⟩
    rw [Quantity.foldl_add nonneg small (forall_counted_nonneg group)]
    exact Int.min_le_right _ _

/-- Adding a group to a row is adding what the group is merged to: the greatest quantity is reached in both
ways or in none. -/
theorem addAll_merged : addAll row (addAll none group).toList = addAll row group := by
  cases group with
  | nil => rfl
  | cons i rest =>
    have merged := addAll_none_eq rest (bounded i List.mem_cons_self)
    cases row with
    | none => rw [merged, Option.toList_some, addAll_none_of_merged merged]
    | some k =>
      obtain ⟨nonneg, small⟩ := inRange k rfl
      have total := Quantity.sum_nonneg (forall_counted_nonneg (i :: rest))
      rw [addAll_some, addAll_some, Quantity.foldl_add nonneg small (forall_counted_nonneg _),
        Quantity.foldl_add nonneg small (forall_counted_nonneg _), merged, Option.toList_some,
        List.map_singleton, List.foldr_cons, List.foldr_nil, countedQuantity]
      congr 2
      simp only [Quantity.greatest]
      omega

end

/-- On the parts: the row so far stays in the range. -/
theorem addAll_flatMap {parts : List (List ListedItem)}
    (bounded : ∀ part ∈ parts, ∀ i ∈ part, i.quantity ≤ Quantity.greatest) {row : Option ListedItem}
    (inRange : RowInRange row) :
    addAll row (parts.flatMap fun part => (addAll none part).toList) = addAll row parts.flatten := by
  induction parts generalizing row with
  | nil => rfl
  | cons part parts ih =>
    obtain ⟨head, tail⟩ := List.forall_mem_cons.1 bounded
    rw [List.flatMap_cons, List.flatten_cons, addAll_append, addAll_append, addAll_merged head inRange,
      ih tail (addAll_inRange head inRange)]

theorem eraseDups_flatMap_eraseDups (lists : List (List String)) :
    (lists.flatMap List.eraseDups).eraseDups = lists.flatten.eraseDups := by
  induction lists with
  | nil => rfl
  | cons keys lists ih =>
    have again : keys.eraseDups.eraseDups = keys.eraseDups :=
      Table.eraseDups_of_nodup (Table.eraseDups_nodup keys)
    have others (more : List String) : more.removeAll keys.eraseDups = more.removeAll keys := by
      simp [List.removeAll]
    rw [List.flatMap_cons, List.flatten_cons, List.eraseDups_append, List.eraseDups_append, again, others,
      List.removeAll, List.removeAll, Table.eraseDups_filter, Table.eraseDups_filter, ih]

theorem filter_isNamed_parts (parts : List (List ListedItem)) :
    (parts.map merge).flatten.filter isNamed = parts.flatMap merge := by
  rw [List.filter_flatten, List.map_map, List.flatMap]
  congr 2
  exact funext filter_isNamed_merge

theorem keysOf_parts (parts : List (List ListedItem)) :
    keysOf (parts.map merge).flatten = keysOf parts.flatten := by
  rw [keysOf, keysOf, filter_isNamed_parts, List.map_flatMap, funext map_mergeKey_merge,
    List.filter_flatten, List.map_flatten, List.map_map, ← eraseDups_flatMap_eraseDups, List.flatMap_map]
  rfl

theorem groupOf_parts (parts : List (List ListedItem)) (key : String) :
    groupOf key ((parts.map merge).flatten.filter isNamed) =
      (parts.map fun part => groupOf key (part.filter isNamed)).flatMap fun group =>
        (addAll none group).toList := by
  rw [filter_isNamed_parts, groupOf, List.filter_flatMap, List.flatMap_map]
  congr 1
  exact funext fun part => groupOf_merge part key

theorem merge_parts {parts : List (List ListedItem)}
    (bounded : ∀ i ∈ parts.flatten, i.quantity ≤ Quantity.greatest) :
    merge (parts.map merge).flatten = merge parts.flatten := by
  rw [merge_eq, merge_eq, keysOf_parts]
  congr 1
  funext key
  have small : ∀ group ∈ parts.map fun part => groupOf key (part.filter isNamed),
      ∀ i ∈ group, i.quantity ≤ Quantity.greatest := by
    refine List.forall_mem_map.2 fun part member => bounded_groupOf (fun i inside => ?_) key
    exact bounded i (List.mem_flatten_of_mem member inside)
  rw [groupOf_parts, addAll_flatMap small (fun j none => by cases none)]
  simp only [groupOf, List.filter_flatten, List.map_map, Function.comp_def]

/-! ## The laws -/

/-- The quantity of the item with a key, if there is one. -/
def quantityOf? (key : String) (items : List ListedItem) : Option Int :=
  (items.find? (·.mergeKey == key)).map (·.quantity)

theorem quantityOf?_merge {items : List ListedItem} (bounded : ∀ i ∈ items, i.quantity ≤ Quantity.greatest)
    (key : String) : quantityOf? key (merge items) =
      if key ∈ keysOf items then some (min (unitsUnder key items) Quantity.greatest) else none := by
  have small := bounded_groupOf bounded key
  rw [quantityOf?, find?_merge, unitsUnder]
  cases group : groupOf key (items.filter isNamed) with
  | nil => rw [if_neg (by simp [mem_keysOf, group])]; rfl
  | cons i rest =>
    rw [group] at small
    rw [if_pos (by simp [mem_keysOf, group]), addAll_none_eq rest (small i List.mem_cons_self)]
    rfl

/-- Merging leaves one item for each key, in the order of first appearance, with the spelling and the details
of the first item of the key and the units of all. Merging again changes nothing, parts may be merged first,
and the order of the items does not matter for the quantities. -/
theorem merge_laws {items : List ListedItem} (bounded : ∀ i ∈ items, i.quantity ≤ Quantity.greatest) :
    ((merge items).map mergeKey = keysOf items ∧ ∀ j ∈ merge items, j.StandsFor items) ∧
    merge (merge items) = merge items ∧
    (∀ parts : List (List ListedItem), parts.flatten = items → merge (parts.map merge).flatten = merge items) ∧
    ∀ items' : List ListedItem, items.Perm items' →
      ∀ key, quantityOf? key (merge items') = quantityOf? key (merge items) := by
  refine ⟨⟨map_mergeKey_merge items, fun j => standsFor_of_mem_merge bounded⟩, ?_, ?_, ?_⟩
  · -- The list is its own only part.
    have whole : ∀ i ∈ [items].flatten, i.quantity ≤ Quantity.greatest := by simpa using bounded
    simpa using merge_parts whole
  · rintro parts rfl
    exact merge_parts bounded
  · intro items' perm key
    have keys : key ∈ keysOf items' ↔ key ∈ keysOf items := by
      rw [mem_keysOf, mem_keysOf, not_iff_not, ← List.perm_nil, ← List.perm_nil]
      have groups := (perm.filter isNamed).filter (·.mergeKey == key)
      exact ⟨groups.trans, groups.symm.trans⟩
    rw [quantityOf?_merge bounded, quantityOf?_merge fun i member => bounded i (perm.mem_iff.2 member),
      unitsUnder_perm perm]
    simp only [keys]

/-- Two spellings of one name, an item without a name and one without units. -/
theorem merge_laws_of_spellings :
    let items : List ListedItem := [⟨"Tritanium", 10, {}⟩, ⟨"\t", 9, {}⟩,
      ⟨" tritanium", 5, { dropped := true }⟩, ⟨"Rifter", -1, {}⟩]
    (∀ i ∈ items, i.quantity ≤ Quantity.greatest) ∧
    (merge items).map mergeKey = ["TRITANIUM", "RIFTER"] ∧ merge (merge items) = merge items ∧
    quantityOf? "TRITANIUM" (merge items.reverse) = some 15 := by
  intro items
  have bounded : ∀ i ∈ items, i.quantity ≤ Quantity.greatest := by decide
  obtain ⟨⟨keys, -⟩, again, -, orders⟩ := merge_laws bounded
  refine ⟨bounded, keys.trans (by decide +kernel), again, ?_⟩
  rw [orders _ items.reverse_perm.symm, quantityOf?_merge bounded]
  decide +kernel

end ListedItem

end ItemAppraisal
