import ItemAppraisal.Proofs.BasketAssembly
import ItemAppraisal.Proofs.BasketOrder
import ItemAppraisal.Proofs.ItemAccounting
import ItemAppraisal.Proofs.ItemStatus
import ItemAppraisal.Proofs.MergeLaws
import ItemAppraisal.Proofs.SumsByKey

/-!
# Totals of quantities

Every quantity of an appraisal is in the range, because sums stop at its end when items of a name are merged
and when materials of a type are added up. The total over all items of a list does not stop there. Main
statements: it stays in the range if the units of all names, or of all types, make a quantity together or
stand under one of them, and only then (`totals_inRange_iff`); two stacks of which one is as large as a
quantity can be pass it (`exists_total_beyond`).
-/

namespace ItemAppraisal

open Quantity (AreSumsOf FitTogether InRange total)

namespace Valuation

/-- The total can be taken one item after the other: no sum on the way leaves the range. -/
def AddsUp (v : Valuation) : Prop :=
  ∀ first, first <+: v.items → InRange { v with items := first }.totalQuantity

theorem addsUp_iff {v : Valuation} (nonneg : ∀ q ∈ v.items.map (·.quantity), 0 ≤ q) :
    v.AddsUp ↔ InRange v.totalQuantity := by
  constructor
  · exact fun adds => adds v.items List.prefix_rfl
  · rintro ⟨-, small⟩ first ⟨rest, whole⟩
    have split : v.items.map (·.quantity) = first.map (·.quantity) ++ rest.map (·.quantity) := by
      rw [← whole, List.map_append]
    rw [totalQuantity, split, Quantity.sum_append] at small
    rw [split] at nonneg
    obtain ⟨front, back⟩ := List.forall_mem_append.1 nonneg
    have positive := Quantity.sum_nonneg front
    have positive' := Quantity.sum_nonneg back
    show InRange ((first.map (·.quantity)).foldr (· + ·) 0)
    exact ⟨Int.le_trans (by decide) positive, by omega⟩

theorem quantities_of_shows {items : List AppraisedItem} {lines : List MaterialLine}
    (shows : List.Forall₂ AppraisedItem.Shows items lines) :
    items.map (·.quantity) = lines.map (·.quantity) := by
  induction shows with
  | nil => rfl
  | cons shown _ ih => rw [List.map_cons, List.map_cons, shown.quantity, ih]

/-- The items of a valuation that lists a basket have the quantities of its lines. -/
theorem quantities_of_lists {v : Valuation} {b : Basket} (lists : v.Lists b) :
    (v.items.map (·.quantity)).Perm (b.lines.map (·.quantity)) := by
  obtain ⟨order, perm, -, shows⟩ := lists
  rw [quantities_of_shows shows]
  exact perm.map _

end Valuation

/-! ## Baskets -/

/-- The units of a line under its type. -/
def MaterialLine.units (l : MaterialLine) : Int × Int :=
  (l.typeId, l.quantity)

section

variable {lines : List MaterialLine} (counted : ∀ l ∈ lines, 0 ≤ l.quantity ∧ l.quantity ≤ Quantity.greatest)
include counted

theorem Basket.areSumsOf_addAll :
    AreSumsOf ((empty.addAll lines).lines.map (·.units)) (lines.map (·.units)) where
  nodup := by
    rw [List.map_map]
    exact typeIds_nodup _
  keys id := by
    rw [List.map_map, List.map_map]
    exact mem_typeIds_addAll.trans (by simp [MaterialLine.units])
  amount row member := by
    obtain ⟨l, inside, rfl⟩ := List.mem_map.1 member
    have found := line?_eq_some_iff.2 ⟨inside, rfl⟩
    have units : Quantity.unitsOf (lines.map (·.units)) l.typeId =
        ((lines.filter (·.typeId == l.typeId)).map (·.quantity)).foldr (· + ·) 0 := by
      rw [Quantity.unitsOf, Quantity.total, List.filter_map, List.map_map]
      rfl
    have own : ∀ m ∈ lines.filter (·.typeId == l.typeId), 0 ≤ m.quantity ∧ m.quantity ≤ Quantity.greatest :=
      fun m among => counted m (List.mem_of_mem_filter among)
    rw [line?_addAll] at found
    show l.quantity = min (Quantity.unitsOf _ l.typeId) _
    rw [units]
    cases rows : lines.filter (·.typeId == l.typeId) with
    | nil => rw [rows] at found; cases found
    | cons m rest =>
      rw [rows] at own found
      have sum := (MaterialLine.addUp_none_cons m rest).symm.trans found
      rw [← Option.some.inj sum]
      exact MaterialLine.quantity_foldl_absorb_eq (fun k among => (own k among).1) (own m List.mem_cons_self).2

theorem Buyback.addsUp_priceBasket (b : Buyback) (p : Pricing) :
    (b.priceBasket p (Basket.empty.addAll lines)).AddsUp ↔ FitTogether (lines.map (·.units)) := by
  have nonneg : ∀ l ∈ (Basket.empty.addAll lines).lines, 0 ≤ l.quantity :=
    Basket.nonneg_addAll (List.forall_mem_nil _) fun l member => (counted l member).1
  have quantities := Valuation.quantities_of_lists (b.lists_priceBasket p (Basket.empty.addAll lines))
  have total : (b.priceBasket p (Basket.empty.addAll lines)).totalQuantity =
      total ((Basket.empty.addAll lines).lines.map (·.units)) := by
    rw [Quantity.total, List.map_map]
    exact Quantity.sum_perm quantities
  rw [Valuation.addsUp_iff fun q member => ?_, total]
  · refine (Basket.areSumsOf_addAll counted).inRange_iff (List.forall_mem_map.2 fun l member => ?_)
    exact (counted l member).1
  · exact List.forall_mem_map.2 nonneg q (quantities.mem_iff.1 member)

end

namespace Buyback

variable {b : Buyback} {p : Pricing} {i : AppraisedItem} {items : List AppraisedItem}

/-- The materials of an item before they are added up, none if it is rejected or its type is not known. -/
def materialsOf (b : Buyback) (item : AppraisedItem) : List MaterialLine :=
  if item.rejected || !item.isResolved then []
  else match b.types.byId? item.typeId with
    | some r => materialLines b.types b.settings b.settings.maxDepth [] none r item.quantity
    | none => []

theorem basket?_cases (b : Buyback) (i : AppraisedItem) :
    b.basket? i = none ∧ b.materialsOf i = [] ∨ b.basket? i = some (Basket.empty.addAll (b.materialsOf i)) := by
  rw [basket?, materialsOf]
  split
  · exact .inl ⟨rfl, rfl⟩
  · cases b.types.byId? i.typeId with
    | none => exact .inl ⟨rfl, rfl⟩
    | some r =>
      have basket : decompose b.types b.settings r i.quantity = Basket.empty.addAll
          (materialLines b.types b.settings b.settings.maxDepth [] none r i.quantity) :=
        decomposeInto_eq_addAll ..
      exact .inr (congrArg some basket)

theorem counted_materialsOf (quantity : 0 ≤ i.quantity ∧ i.quantity ≤ Quantity.greatest) :
    ∀ l ∈ b.materialsOf i, 0 ≤ l.quantity ∧ l.quantity ≤ Quantity.greatest := by
  rw [materialsOf]
  split
  · exact List.forall_mem_nil _
  · cases found : b.types.byId? i.typeId with
    | none => exact List.forall_mem_nil _
    | some r =>
      have known := TypeCatalog.byId?_of_byId? found
      have sound : ∀ l ∈ materialLines b.types b.settings b.settings.maxDepth [] none r i.quantity,
          l.Sound b.types b.settings := sound_materialLines known quantity.1 quantity.2 nofun
      exact fun l member => ⟨(sound l member).nonneg, (sound l member).bounded⟩

/-- The basket of all items holds all their materials, which may as well be added up item by item. -/
theorem globalBasket_eq (quantities : ∀ i ∈ items, 0 ≤ i.quantity ∧ i.quantity ≤ Quantity.greatest) :
    b.globalBasket items = Basket.empty.addAll (items.flatMap b.materialsOf) := by
  have onto (c : Basket) (nonneg : ∀ l ∈ c.lines, 0 ≤ l.quantity) :
      (items.filterMap b.basket?).foldl Basket.merge c = c.addAll (items.flatMap b.materialsOf) := by
    induction items generalizing c with
    | nil => rfl
    | cons i items ih =>
      obtain ⟨own, others⟩ := List.forall_mem_cons.1 quantities
      rcases b.basket?_cases i with ⟨bare, nothing⟩ | found
      · rw [List.filterMap_cons_none bare, List.flatMap_cons, nothing, List.nil_append, ih others c nonneg]
      · have positive : ∀ l ∈ b.materialsOf i, 0 ≤ l.quantity := fun l member =>
          (counted_materialsOf own l member).1
        rw [List.filterMap_cons_some found, List.foldl_cons, Basket.merge_addAll nonneg positive,
          ih others _ (Basket.nonneg_addAll nonneg positive), List.flatMap_cons, Basket.addAll_append]
  exact onto .empty (List.forall_mem_nil _)

theorem materialsOf_withBasket : b.materialsOf (b.withBasket p i) = b.materialsOf i := by
  rw [withBasket]
  cases b.basket? i <;> rfl

theorem quantity_withBasket : (b.withBasket p i).quantity = i.quantity := by
  rw [withBasket]
  cases b.basket? i <;> rfl

end Buyback

/-! ## Items -/

theorem Pricing.priceItem_kept (p : Pricing) (market : String) (adjustments : Table Int Float)
    (item : AppraisedItem) : (p.priceItem market adjustments item).quantity = item.quantity ∧
      (p.priceItem market adjustments item).buyback = item.buyback := by
  rcases p.priceItem_cases market adjustments item with ⟨-, same⟩ | ⟨r, _, _, -, same⟩ <;> rw [same] <;>
    exact ⟨rfl, rfl⟩

theorem Pricing.quantity_resolve (p : Pricing) (item : AppraisedItem) :
    (p.resolve item).quantity = item.quantity := by
  rw [resolve]
  cases p.record? item <;> rfl

theorem Buyback.quantity_judge (b : Buyback) (item : AppraisedItem) :
    (b.judge item).quantity = item.quantity := by
  rcases b.judge_cases item with ⟨same, -⟩ | ⟨r, -, same⟩ <;> rw [same]

namespace ListedItem

/-- The units of an item under its key. -/
def units (i : ListedItem) : String × Int :=
  (i.mergeKey, i.countedQuantity)

/-- Merging adds up the units of each name. -/
theorem areSumsOf_merge {items : List ListedItem} (bounded : ∀ i ∈ items, i.quantity ≤ Quantity.greatest) :
    AreSumsOf ((merge items).map fun j => (j.mergeKey, j.quantity)) ((items.filter isNamed).map units) where
  nodup := by
    rw [List.map_map]
    show ((merge items).map mergeKey).Nodup
    rw [map_mergeKey_merge]
    exact Table.eraseDups_nodup _
  keys key := by
    rw [List.map_map, List.map_map]
    show key ∈ (merge items).map mergeKey ↔ key ∈ (items.filter isNamed).map mergeKey
    rw [map_mergeKey_merge, keysOf, List.mem_eraseDups]
  amount row member := by
    obtain ⟨j, inside, rfl⟩ := List.mem_map.1 member
    obtain ⟨first, rest, -, same⟩ := standsFor_of_mem_merge bounded inside
    have units : Quantity.unitsOf ((items.filter isNamed).map units) j.mergeKey = unitsUnder j.mergeKey items := by
      rw [Quantity.unitsOf, Quantity.total, List.filter_map, List.map_map]
      rfl
    rw [units]
    exact congrArg (·.quantity) same

end ListedItem

/-! ## Appraisals -/

namespace Appraiser

variable (a : Appraiser) (market raw : String) (c : Classification)

theorem prepare_kept (item : AppraisedItem) :
    (a.prepare item).quantity = item.quantity ∧ (a.prepare item).buyback = item.buyback := by
  rw [prepare]
  split
  · exact ⟨(Buyback.quantity_judge _ _).trans (Pricing.quantity_resolve _ _),
      Buyback.buyback_judge.trans Pricing.buyback_resolve⟩
  · exact ⟨rfl, rfl⟩

/-- The items of a parse once they are priced. -/
def pricedItems (market : String) (parse : Parse) : List AppraisedItem :=
  (a.itemsOf parse).map (a.pricing.priceItem market [])

theorem map_quantity_pricedItems (parse : Parse) : (a.pricedItems market parse).map (·.quantity) =
    (ListedItem.merge parse.listed).map (·.quantity) := by
  rw [pricedItems, itemsOf_eq, List.map_map, List.map_map]
  refine List.map_congr_left fun l _ => ?_
  exact (a.pricing.priceItem_kept market [] _).1.trans (a.prepare_kept _).1

theorem bare_of_mem_pricedItems {parse : Parse} {i : AppraisedItem} (member : i ∈ a.pricedItems market parse) :
    i.buyback = none := by
  rw [pricedItems, itemsOf_eq, List.map_map] at member
  obtain ⟨l, -, rfl⟩ := List.mem_map.1 member
  exact (a.pricing.priceItem_kept market [] _).2.trans (a.prepare_kept _).2

theorem quantities_pricedItems (types : TypeCatalog) (paste : Paste) :
    ∀ i ∈ a.pricedItems market (Parse.all types paste), 0 ≤ i.quantity ∧ i.quantity ≤ Quantity.greatest := by
  have merged : ∀ q ∈ (ListedItem.merge (Parse.all types paste).listed).map (·.quantity),
      0 ≤ q ∧ q ≤ Quantity.greatest := by
    refine List.forall_mem_map.2 fun j member => ⟨(ListedItem.exists_of_mem_merge member).1, ?_⟩
    have bounded : ∀ i ∈ (Parse.all types paste).listed, i.quantity ≤ Quantity.greatest := fun i listed =>
      (Parse.quantity_inRange listed).2
    obtain ⟨first, rest, -, same⟩ := ListedItem.standsFor_of_mem_merge bounded member
    rw [same]
    exact min_le_right _ _
  rw [← map_quantity_pricedItems] at merged
  exact List.forall_mem_map.1 merged

/-- The total of the pasted items. -/
theorem addsUp_pasted (parsed : c.parse = Parse.all a.types (Paste.ofText raw)) :
    (a.value market raw c).pasted.AddsUp ↔
      FitTogether ((c.parse.listed.filter ListedItem.isNamed).map (·.units)) := by
  have bounded : ∀ i ∈ c.parse.listed, i.quantity ≤ Quantity.greatest := by
    rw [parsed]
    exact fun i listed => (Parse.quantity_inRange listed).2
  have quantities : (a.value market raw c).pasted.items.map (·.quantity) =
      ((ListedItem.merge c.parse.listed).map fun j => (j.mergeKey, j.quantity)).map (·.2) := by
    show ((a.pricedItems market c.parse).map (a.buyback.withBasket a.pricing)).map (·.quantity) = _
    rw [List.map_map, List.map_map]
    exact (List.map_congr_left fun i _ => Buyback.quantity_withBasket).trans
      (a.map_quantity_pricedItems market c.parse)
  have nonneg : ∀ q ∈ (a.value market raw c).pasted.items.map (·.quantity), 0 ≤ q := by
    rw [quantities, List.map_map]
    exact List.forall_mem_map.2 fun j member => (ListedItem.exists_of_mem_merge member).1
  rw [Valuation.addsUp_iff nonneg, Valuation.totalQuantity, quantities]
  exact (ListedItem.areSumsOf_merge bounded).inRange_iff
    (List.forall_mem_map.2 fun i _ => i.countedQuantity_nonneg)

end Appraiser

/-- The quantities of an appraisal are in the range, but their total may not be. The total of the pasted items
is in the range, and so is every sum on the way to it, if and only if the units of all names make a quantity
together or stand under one name; and likewise the total of the materials of an item and of all items, with
the types of the materials in place of the names. -/
theorem totals_inRange_iff (a : Appraiser) {market raw : String} {v : Appraisal}
    (appraised : a.appraise market raw = .ok v) :
    let listed := (Parse.all a.types (Paste.ofText raw)).listed.filter ListedItem.isNamed
    (∀ i ∈ v.pasted.items, 0 ≤ i.quantity ∧ i.quantity ≤ Quantity.greatest) ∧
    (v.pasted.AddsUp ↔ FitTogether (listed.map (·.units))) ∧
    (∀ i ∈ v.pasted.items, ∀ materials, i.buyback = some materials →
      (materials.AddsUp ↔ FitTogether ((a.buyback.materialsOf i).map (·.units)))) ∧
    (v.buyback.AddsUp ↔ FitTogether ((v.pasted.items.flatMap a.buyback.materialsOf).map (·.units))) := by
  intro listed
  obtain ⟨c, classified, rfl⟩ := Appraiser.eq_value_of_appraise appraised
  have parsed := (classify_eq_ok classified).1
  have quantities : ∀ i ∈ a.pricedItems market c.parse, 0 ≤ i.quantity ∧ i.quantity ≤ Quantity.greatest := by
    rw [parsed]
    exact a.quantities_pricedItems market a.types (Paste.ofText raw)
  have items : (a.value market raw c).pasted.items =
      (a.pricedItems market c.parse).map (a.buyback.withBasket a.pricing) := rfl
  refine ⟨?_, ?_, ?_, ?_⟩
  · rw [items]
    refine List.forall_mem_map.2 fun i member => ?_
    rw [Buyback.quantity_withBasket]
    exact quantities i member
  · have sums := a.addsUp_pasted market raw c parsed
    rwa [parsed] at sums
  · rw [items]
    refine List.forall_mem_map.2 fun i member materials priced => ?_
    rw [Buyback.materialsOf_withBasket]
    rcases a.buyback.basket?_cases i with ⟨bare, -⟩ | found
    · rw [Buyback.withBasket_none bare, a.bare_of_mem_pricedItems market member] at priced
      cases priced
    · rw [Buyback.withBasket_some found] at priced
      obtain rfl := Option.some.inj priced
      exact a.buyback.addsUp_priceBasket (Buyback.counted_materialsOf (quantities i member)) a.pricing
  · have global : (a.value market raw c).buyback = a.buyback.priceBasket a.pricing
        (a.buyback.globalBasket (a.pricedItems market c.parse)) := rfl
    have counted : ∀ l ∈ (a.pricedItems market c.parse).flatMap a.buyback.materialsOf,
        0 ≤ l.quantity ∧ l.quantity ≤ Quantity.greatest := by
      intro l member
      obtain ⟨i, inside, given⟩ := List.mem_flatMap.1 member
      exact Buyback.counted_materialsOf (quantities i inside) l given
    rw [global, Buyback.globalBasket_eq quantities, items, List.flatMap_map]
    simp only [Buyback.materialsOf_withBasket]
    exact a.buyback.addsUp_priceBasket counted a.pricing

/-! ## Reports of small and of large stacks -/

theorem Parse.listed_of_report {types : TypeCatalog} {paste : Paste} {report : KillReport} {numbers : List Nat}
    (filled : paste.lines ≠ []) (read : Format.Kind.killReport.read types paste = ⟨.killReport report, numbers⟩)
    (whole : numbers = paste.numbers) : (all types paste).listed = report.listed := by
  have readings : (all types paste).readings = [⟨.killReport report, numbers⟩] := by
    rw [all_of_report types filled (by rw [read]; exact whole), read]
  rw [listed, readings]
  exact List.append_nil _

theorem totals_inRange_iff_of_ship_report :
    ∃ v, ShipReport.appraiser.appraise "jita" ShipReport.text = .ok v ∧ v.pasted.AddsUp := by
  obtain ⟨c, -, success⟩ := ShipReport.appraise_text
  obtain ⟨-, pasted, -⟩ := totals_inRange_iff ShipReport.appraiser success
  refine ⟨_, success, pasted.2 (.inl ?_)⟩
  have filled : (Paste.ofText ShipReport.text).lines ≠ [] := by simp [ShipReport.lines_text]
  have numbers : (Paste.ofText ShipReport.text).numbers = [1, 2, 3, 4] := by
    rw [Paste.numbers, ShipReport.lines_text]
    rfl
  rw [Parse.listed_of_report filled ShipReport.read_text numbers.symm]
  decide +kernel

namespace HeapReport

open Format (Kind)
open ShipReport (appraiser)

/-- A report of as many units of a mineral as a quantity can have, and of a ship. -/
def text : String := "Dropped items:\nTritanium, Qty: 9223372036854775807\nRifter"

/-- What the report says. -/
def report : KillReport := { dropped := [⟨"Tritanium", 9223372036854775807, ""⟩, ⟨"Rifter", 1, ""⟩] }

theorem lines_text : (Paste.ofText text).lines =
    [⟨1, "Dropped items:"⟩, ⟨2, "Tritanium, Qty: 9223372036854775807"⟩, ⟨3, "Rifter"⟩] := by
  decide +kernel

theorem numbers_text : (Paste.ofText text).numbers = [1, 2, 3] := by
  rw [Paste.numbers, lines_text]
  rfl

theorem read_text : Kind.killReport.read appraiser.types (Paste.ofText text) =
    ⟨.killReport report, [1, 2, 3]⟩ := by
  have marked : (Paste.ofText text).lines.any (fun line => KillReport.marksReport line.clean) = true := by
    decide +kernel
  have header : KillReport.section? (Line.clean ⟨1, "Dropped items:"⟩) = some .dropped := by decide +kernel
  have mineral : KillReport.item? (Line.clean ⟨2, "Tritanium, Qty: 9223372036854775807"⟩) =
      some ⟨"Tritanium", 9223372036854775807, ""⟩ := by
    rw [KillReport.item?, Text.Pattern.match?_eq_head?]
    decide +kernel
  have ship : KillReport.item? (Line.clean ⟨3, "Rifter"⟩) = some ⟨"Rifter", 1, ""⟩ := by
    rw [KillReport.item?, Text.Pattern.match?_eq_head?]
    decide +kernel
  rw [Kind.read, KillReport.readReport, if_pos marked, lines_text, KillReport.entries_cons_header header,
    KillReport.entries_cons_item (by decide +kernel) (by decide +kernel) mineral,
    KillReport.entries_cons_item (by decide +kernel) (by decide +kernel) ship]
  rfl

theorem exists_appraise_text : ∃ v, appraiser.appraise "jita" text = .ok v := by
  have present : ⟨1, "Dropped items:"⟩ ∈ (Paste.ofText text).lines := by simp [lines_text]
  have accepted : ¬appraiser.Refuses "jita" text := by
    rw [Appraiser.Refuses]
    decide +kernel
  obtain ⟨c, -, success⟩ :=
    Appraiser.appraise_of_report accepted read_text numbers_text.symm present (by decide +kernel)
  exact ⟨_, success⟩

theorem units_text : ((Parse.all appraiser.types (Paste.ofText text)).listed.filter ListedItem.isNamed).map
    (·.units) = [("TRITANIUM", 9223372036854775807), ("RIFTER", 1)] := by
  have filled : (Paste.ofText text).lines ≠ [] := by simp [lines_text]
  rw [Parse.listed_of_report filled read_text numbers_text.symm]
  decide +kernel

theorem not_fitTogether : ¬FitTogether [("TRITANIUM", (9223372036854775807 : Int)), ("RIFTER", 1)] := by
  rintro (small | ⟨key, only⟩)
  · exact absurd small (by decide)
  · have mineral := only ("TRITANIUM", 9223372036854775807) List.mem_cons_self (by decide)
    have ship := only ("RIFTER", 1) (List.mem_cons_of_mem _ List.mem_cons_self) (by decide)
    exact absurd (mineral.trans ship.symm) (by decide)

end HeapReport

open HeapReport in
/-- Two stacks of different names pass the end of the range together. -/
theorem exists_total_beyond :
    ¬∀ (a : Appraiser) (market raw : String) (v : Appraisal), a.settings.validate = .ok () →
      a.appraise market raw = .ok v → v.pasted.AddsUp ∧
        (∀ i ∈ v.pasted.items, ∀ materials, i.buyback = some materials → materials.AddsUp) ∧
        v.buyback.AddsUp := by
  intro always
  have valid : ShipReport.appraiser.settings.validate = .ok () := by
    have none : ShipReport.appraiser.settings.problem? = none := by decide +kernel
    rw [Settings.validate, none]
  obtain ⟨v, success⟩ := exists_appraise_text
  obtain ⟨adds, -⟩ := always ShipReport.appraiser "jita" text v valid success
  obtain ⟨c, classified, rfl⟩ := Appraiser.eq_value_of_appraise success
  have parsed := (classify_eq_ok classified).1
  rw [Appraiser.addsUp_pasted _ _ _ _ parsed, parsed, units_text] at adds
  exact not_fitTogether adds

end ItemAppraisal
