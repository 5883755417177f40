import ItemAppraisal.Proofs.ItemResolution
import Mathlib.Data.List.Forall2
import Mathlib.Data.List.Induction

/-!
# Pricing again

A pass of pricing keeps the type that is found for an item, and a later pass writes anew whatever the pass
has written: the prices, and the adjustment unless the item is rejected, which no pass changes. So items that
are priced in several passes end as if only the last pass had been made (`reprice_eq_last`).
-/

namespace ItemAppraisal

/-- A market and the adjustments with which items are priced in it. -/
structure Pass where
  market : String
  adjustments : Table Int Float

/-- An item with another type, other prices and another adjustment, if any, and all else as it was. -/
structure AppraisedItem.Repriced (before after : AppraisedItem) : Prop where
  name : after.name = before.name
  quantity : after.quantity = before.quantity
  details : after.details = before.details
  rejected : after.rejected = before.rejected
  qualifier : after.qualifier = before.qualifier
  efficiency : after.efficiency = before.efficiency
  buyback : after.buyback = before.buyback

namespace AppraisedItem.Repriced

theorem refl (i : AppraisedItem) : Repriced i i :=
  ⟨rfl, rfl, rfl, rfl, rfl, rfl, rfl⟩

theorem trans {i j k : AppraisedItem} (first : Repriced i j) (second : Repriced j k) : Repriced i k where
  name := second.name.trans first.name
  quantity := second.quantity.trans first.quantity
  details := second.details.trans first.details
  rejected := second.rejected.trans first.rejected
  qualifier := second.qualifier.trans first.qualifier
  efficiency := second.efficiency.trans first.efficiency
  buyback := second.buyback.trans first.buyback

end AppraisedItem.Repriced

namespace Pricing

open AppraisedItem (Repriced)

variable {p : Pricing}

/-- Prices the same items in one pass after the other. The totals are those of the last pass. -/
def reprice (p : Pricing) (passes : List Pass) (items : List AppraisedItem) : Valuation :=
  passes.foldl (fun v pass => p.priceItems pass.market pass.adjustments v.items) { items }

/-! ## One item -/

/-- The type that is found for an item is found again once the item carries it. -/
theorem record?_withRecord {item : AppraisedItem} {r : TypeRecord} (found : p.record? item = some r) :
    p.record? (withRecord item r) = some r := by
  by_cases unresolved : item.typeId = 0
  · rw [record?_of_unresolved unresolved] at found
    by_cases zero : r.id = 0
    · -- Id zero stands for no type, so the name is looked up again.
      have still : (withRecord item r).typeId = 0 := zero
      rw [record?_of_unresolved still]
      exact found
    · have resolved : (withRecord item r).typeId ≠ 0 := zero
      rw [record?_of_resolved resolved]
      exact TypeCatalog.byId?_of_byName? found
  · rw [record?_of_resolved unresolved] at found
    have own : r.id = item.typeId := (TypeCatalog.byId?_eq_some_iff.1 found).2
    have resolved : (withRecord item r).typeId ≠ 0 := fun zero => unresolved (own.symm.trans zero)
    rw [record?_of_resolved resolved]
    exact TypeCatalog.byId?_of_byId? found

variable (p) (market market' : String) (adjustments adjustments' : Table Int Float)

theorem repriced_priceItem (item : AppraisedItem) :
    Repriced item (p.priceItem market adjustments item) := by
  rcases p.priceItem_cases market adjustments item with ⟨-, same⟩ | ⟨r, _, _, -, same⟩
  · rw [same]
    exact .refl item
  · rw [same]
    exact ⟨rfl, rfl, rfl, rfl, rfl, rfl, rfl⟩

theorem record?_priceItem (item : AppraisedItem) :
    p.record? (p.priceItem market adjustments item) = p.record? item := by
  rcases p.priceItem_cases market adjustments item with ⟨-, same⟩ | ⟨r, _, _, found, same⟩
  · rw [same]
  · rw [found, ← record?_withRecord found, same]
    rfl

theorem counts_priceItem (item : AppraisedItem) :
    p.counts (p.priceItem market adjustments item) = p.counts item := by
  rw [counts, counts, record?_priceItem, (p.repriced_priceItem market adjustments item).rejected]

/-- The last of two passes decides. An item that is rejected keeps the adjustment that it had before both. -/
theorem priceItem_priceItem (item : AppraisedItem) :
    p.priceItem market' adjustments' (p.priceItem market adjustments item) =
      p.priceItem market' adjustments' item := by
  cases found : p.record? item with
  | none =>
    have unchanged : p.priceItem market adjustments item = item := by rw [priceItem, found]
    rw [unchanged]
  | some r =>
    have again := (p.record?_priceItem market adjustments item).trans found
    rw [priceItem, again, priceItem, priceItem, found]
    cases rejected : item.rejected with
    | true => simp [withRecord, rejected]
    | false =>
      -- Prices are read off the name, the type and the details, and none of them off earlier prices.
      simp only [withRecord, rejected]
      rfl

/-! ## Passes -/

theorem priceItems_priceItems (items : List AppraisedItem) :
    p.priceItems market' adjustments' (p.priceItems market adjustments items).items =
      p.priceItems market' adjustments' items := by
  have counted : p.counts ∘ p.priceItem market adjustments = p.counts :=
    funext (p.counts_priceItem market adjustments)
  have priced : p.priceItem market' adjustments' ∘ p.priceItem market adjustments =
      p.priceItem market' adjustments' := funext (p.priceItem_priceItem market market' adjustments adjustments')
  simp only [priceItems, List.filter_map, List.map_map, counted, priced]

variable {p}

theorem reprice_concat (passes : List Pass) (last : Pass) (items : List AppraisedItem) :
    p.reprice (passes ++ [last]) items =
      p.priceItems last.market last.adjustments (p.reprice passes items).items := by
  rw [reprice, List.foldl_append, List.foldl_cons, List.foldl_nil, reprice]

theorem repriced_reprice (passes : List Pass) (items : List AppraisedItem) :
    List.Forall₂ Repriced items (p.reprice passes items).items := by
  induction passes using List.reverseRecOn with
  | nil => exact List.forall₂_same.2 fun i _ => .refl i
  | append_singleton passes last ih =>
    rw [reprice_concat, priceItems, List.forall₂_map_right_iff]
    exact ih.imp fun i j first => first.trans (p.repriced_priceItem last.market last.adjustments j)

end Pricing

open AppraisedItem (Repriced)

/-- However often items were priced before, the last pass decides their types, prices, adjustments and totals;
so pricing twice is pricing once. No pass changes anything else about an item. -/
theorem reprice_eq_last (p : Pricing) (items : List AppraisedItem) :
    (∀ (passes : List Pass) (last : Pass),
      p.reprice (passes ++ [last]) items = p.priceItems last.market last.adjustments items) ∧
    (∀ market adjustments, p.priceItems market adjustments (p.priceItems market adjustments items).items =
      p.priceItems market adjustments items) ∧
    ∀ passes, List.Forall₂ Repriced items (p.reprice passes items).items := by
  refine ⟨fun passes last => ?_, fun market adjustments => ?_, fun passes => ?_⟩
  · induction passes using List.reverseRecOn generalizing last with
    | nil => rfl
    | append_singleton passes earlier ih =>
      rw [Pricing.reprice_concat, ih earlier, Pricing.priceItems_priceItems]
  · exact p.priceItems_priceItems market market adjustments adjustments items
  · exact Pricing.repriced_reprice passes items

end ItemAppraisal
