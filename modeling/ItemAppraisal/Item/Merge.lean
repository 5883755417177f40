import ItemAppraisal.Item.Listed
import ItemAppraisal.Text.Blank
import ItemAppraisal.Text.Case
import Std.Data.HashMap

/-!
# Merging listed items

One item for each name, in the order of first appearance. Names are compared in capitals and without
spaces and tabs at their ends. The first item of a name gives its spelling and its details, and all of
them give their quantities; negative ones count as zero. Main statement: merging fills a table by name, in
which each item changes its own row (`merge_eq_map_mergeTable`).
-/

namespace ItemAppraisal

namespace ListedItem

/-- A name without spaces and tabs at its ends. -/
def trimmedName (i : ListedItem) : String :=
  Text.trimText (fun c => c == ' ' || c == '\t') i.name

/-- What items have in common that are merged. -/
def mergeKey (i : ListedItem) : String :=
  Text.uppercase i.trimmedName

/-- The quantity that counts in a sum. -/
def countedQuantity (i : ListedItem) : Int :=
  max i.quantity 0

/-- The item of a name after an item of that name is added to the one that is there, if there is one. -/
def addedTo (i : ListedItem) : Option ListedItem → ListedItem
  | some j => { j with quantity := Quantity.add j.quantity i.countedQuantity }
  | none => { i with name := i.trimmedName, quantity := i.countedQuantity }

/-- Items by their keys, with the keys in the order of first appearance, the last one first. -/
structure Merged where
  keys : List String := []
  items : Std.HashMap String ListedItem := ∅

/-- Adds an item. -/
def Merged.add : Merged → ListedItem → Merged
  | ⟨keys, items⟩, i =>
    let key := i.mergeKey
    match items[key]? with
    | some j => ⟨keys, items.insert key (i.addedTo (some j))⟩
    | none => ⟨key :: keys, items.insert key (i.addedTo none)⟩

/-- The items in the order of first appearance. -/
def Merged.toList (m : Merged) : List ListedItem :=
  m.keys.reverse.filterMap (m.items[·]?)

/-- Whether an item has a name. -/
def isNamed (i : ListedItem) : Bool :=
  !i.trimmedName.isEmpty

/-- Merges items; those without a name are dropped. -/
def merge (items : List ListedItem) : List ListedItem :=
  ((items.filter isNamed).foldl Merged.add {}).toList

/-! ## The table of merged items -/

/-- Adds an item to its row of a table. -/
def addToTable (table : Table String ListedItem) (i : ListedItem) : Table String ListedItem :=
  table.insert i.mergeKey (i.addedTo (table.get? i.mergeKey))

/-- The merged items by their keys. -/
def mergeTable (items : List ListedItem) : Table String ListedItem :=
  (items.filter isNamed).foldl addToTable []

/-- A table holds what is merged so far. -/
structure Merged.Fills (m : Merged) (table : Table String ListedItem) : Prop where
  keys_eq : table.keys = m.keys.reverse
  nodup : table.keys.Nodup
  get?_eq : ∀ key, table.get? key = m.items[key]?

theorem Merged.fills_empty : Fills {} [] :=
  ⟨rfl, List.nodup_nil, fun _ => by simp⟩

theorem Merged.Fills.add {m : Merged} {table : Table String ListedItem} (h : m.Fills table)
    (i : ListedItem) : (m.add i).Fills (addToTable table i) := by
  obtain ⟨keys, items⟩ := m
  have hget (row : Option ListedItem) (hrow : items[i.mergeKey]? = row) (key : String) :
      (addToTable table i).get? key = (items.insert i.mergeKey (i.addedTo row))[key]? := by
    rw [addToTable, Table.get?_insert, h.get?_eq, h.get?_eq, Std.HashMap.getElem?_insert, hrow]
    by_cases hk : key = i.mergeKey
    · simp [hk]
    · simp [hk, Ne.symm hk]
  have hmem : i.mergeKey ∈ table.keys ↔ (items[i.mergeKey]?).isSome := by
    rw [← h.get?_eq, Table.isSome_get?]
  rw [Merged.add]
  cases hrow : items[i.mergeKey]? with
  | some j =>
    rw [hrow] at hmem
    have hk : (addToTable table i).keys = table.keys := by
      rw [addToTable, Table.keys_insert, if_pos (hmem.2 rfl)]
    exact ⟨hk.trans h.keys_eq, hk ▸ h.nodup, hget _ hrow⟩
  | none =>
    rw [hrow] at hmem
    have hn : i.mergeKey ∉ table.keys := fun hm => by simpa using hmem.1 hm
    have hk : (addToTable table i).keys = table.keys ++ [i.mergeKey] := by
      rw [addToTable, Table.keys_insert, if_neg hn]
    refine ⟨?_, ?_, hget _ hrow⟩
    · rw [hk, h.keys_eq, List.reverse_cons]
    · rw [hk, List.nodup_append]
      exact ⟨h.nodup, by simp, fun a ha b hb => by
        rw [List.mem_singleton.1 hb]
        exact fun hab => hn (hab ▸ ha)⟩

theorem Merged.Fills.toList_eq {m : Merged} {table : Table String ListedItem} (h : m.Fills table) :
    m.toList = table.map (·.2) := by
  rw [toList, ← h.keys_eq, ← Table.filterMap_get?_keys table h.nodup]
  congr 1
  funext key
  rw [h.get?_eq]

theorem merge_eq_map_mergeTable (items : List ListedItem) :
    merge items = (mergeTable items).map (·.2) := by
  have h (l : List ListedItem) {m : Merged} {table : Table String ListedItem} (h : m.Fills table) :
      (l.foldl Merged.add m).Fills (l.foldl addToTable table) := by
    induction l generalizing m table with
    | nil => exact h
    | cons i l ih => exact ih (h.add i)
  exact (h _ Merged.fills_empty).toList_eq

end ListedItem

end ItemAppraisal
