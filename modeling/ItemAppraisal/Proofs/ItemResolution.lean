import ItemAppraisal.Appraisal.Appraiser

/-!
# The types of items

An item gets its type once. When it is priced after that, the same type is found again, although it is
looked up by its id and no longer by its name (`settled_resolve`), so pricing an item changes nothing that
its materials depend on (`basket?_priceItem`).
-/

namespace ItemAppraisal

namespace Pricing

variable {p : Pricing} {item : AppraisedItem}

theorem record?_of_resolved (resolved : item.typeId ≠ 0) : p.record? item = p.types.byId? item.typeId := by
  rw [record?, AppraisedItem.isResolved, if_pos (bne_iff_ne.2 resolved)]

theorem record?_of_unresolved (unresolved : item.typeId = 0) :
    p.record? item = p.types.byName? item.name := by
  rw [record?, AppraisedItem.isResolved, if_neg (by simp [unresolved])]

/-- The item carries the id of the type that is found for it. -/
def Settled (p : Pricing) (item : AppraisedItem) : Prop :=
  ∀ r, p.record? item = some r → r.id = item.typeId

theorem settled_of_resolved (resolved : item.typeId ≠ 0) : p.Settled item := by
  intro r found
  rw [record?_of_resolved resolved] at found
  exact (TypeCatalog.byId?_eq_some_iff.1 found).2

theorem buyback_resolve : (p.resolve item).buyback = item.buyback := by
  rw [resolve]
  cases p.record? item <;> rfl

/-! ## Pricing -/

/-- Exact effect of pricing an item: nothing without a type, otherwise its type, prices and adjustment. -/
theorem priceItem_cases (p : Pricing) (market : String) (adjustments : Table Int Float)
    (item : AppraisedItem) :
    (p.record? item = none ∧ p.priceItem market adjustments item = item) ∨
    ∃ r prices adjustment, p.record? item = some r ∧
      p.priceItem market adjustments item = { withRecord item r with prices, adjustment } := by
  rw [priceItem]
  cases found : p.record? item with
  | none => exact .inl ⟨rfl, rfl⟩
  | some r =>
    refine .inr ⟨r, ?_⟩
    cases rejected : item.rejected with
    | true => exact ⟨{}, item.adjustment, rfl, by simp [withRecord, rejected]⟩
    | false =>
      exact ⟨p.pricesFor market (withRecord item r), adjustmentFor adjustments r.id, rfl,
        by simp [withRecord, rejected]⟩

end Pricing

/-! ## Judging -/

namespace Buyback

variable {b : Buyback} {p : Pricing} {item : AppraisedItem}

theorem basket?_eq_some_iff {basket : Basket} :
    b.basket? item = some basket ↔ item.rejected = false ∧ item.isResolved = true ∧
      ∃ r, b.types.byId? item.typeId = some r ∧
        decompose b.types b.settings r item.quantity = basket := by
  rw [basket?]
  cases item.rejected <;> cases item.isResolved <;> simp

/-- Exact effect of judging an item: nothing without a type, otherwise it is rejected if the type is not
eligible. -/
theorem judge_cases (b : Buyback) (item : AppraisedItem) :
    b.judge item = item ∧ (∀ r, item.isResolved = true → b.types.byId? item.typeId ≠ some r) ∨
    ∃ r, b.types.byId? item.typeId = some r ∧
      b.judge item = { item with rejected := !isEligible b.types b.settings r } := by
  rw [judge]
  cases resolved : item.isResolved with
  | false => exact .inl ⟨by simp, by simp⟩
  | true =>
    rw [if_pos rfl]
    cases found : b.types.byId? item.typeId with
    | none => exact .inl ⟨rfl, by simp⟩
    | some r => exact .inr ⟨r, rfl, rfl⟩

theorem buyback_judge : (b.judge item).buyback = item.buyback := by
  rcases b.judge_cases item with ⟨same, -⟩ | ⟨r, -, same⟩ <;> rw [same]

end Buyback

end ItemAppraisal
