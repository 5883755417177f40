import ItemAppraisal.Proofs.BasketLines
import ItemAppraisal.Proofs.ItemResolution

/-!
# The order of materials

Materials are sorted by their quantities and names. The sort is stable and a basket is in ascending order
of its types, so materials of one quantity and one name stay in that order (`pairwise_before`). Pricing
them changes neither the order nor what the lines report (`lists_priceBasket`).
-/

namespace ItemAppraisal

namespace MaterialLine

/-- The order of materials: descending quantity, then name, then type. -/
def Before (l m : MaterialLine) : Prop :=
  m.quantity < l.quantity ∨ l.quantity = m.quantity ∧ (l.name < m.name ∨ l.name = m.name ∧ l.typeId < m.typeId)

instance (l m : MaterialLine) : Decidable (l.Before m) := inferInstanceAs (Decidable (_ ∨ _ ∧ _))

/-- Whether a line may stand in front of another one, by quantity and name alone. -/
def mayPrecede (l m : MaterialLine) : Bool :=
  m.quantity < l.quantity || (l.quantity == m.quantity && !(m.name < l.name))

/-- Whether two lines have the same quantity and the same name. -/
def ties (l m : MaterialLine) : Bool :=
  l.quantity == m.quantity && l.name == m.name

theorem mayPrecede_iff {l m : MaterialLine} :
    l.mayPrecede m = true ↔ m.quantity < l.quantity ∨ l.quantity = m.quantity ∧ l.name ≤ m.name := by
  simp only [mayPrecede, Bool.or_eq_true, decide_eq_true_eq, Bool.and_eq_true, beq_iff_eq,
    Bool.not_eq_true', decide_eq_false_iff_not, String.not_lt]

theorem mayPrecede_trans (l m n : MaterialLine) (first : l.mayPrecede m = true)
    (second : m.mayPrecede n = true) : l.mayPrecede n = true := by
  rw [mayPrecede_iff] at *
  rcases first with less | ⟨same, name⟩
  · left
    omega
  · rcases second with less | ⟨same', name'⟩
    · left
      omega
    · exact .inr ⟨same.trans same', String.le_trans name name'⟩

theorem mayPrecede_total (l m : MaterialLine) : (l.mayPrecede m || m.mayPrecede l) = true := by
  rw [Bool.or_eq_true, mayPrecede_iff, mayPrecede_iff]
  rcases Int.lt_trichotomy l.quantity m.quantity with less | same | greater
  · exact .inr (.inl less)
  · rcases String.le_total l.name m.name with name | name
    · exact .inl (.inr ⟨same, name⟩)
    · exact .inr (.inr ⟨same.symm, name⟩)
  · exact .inl (.inl greater)

theorem ties_iff {l m : MaterialLine} : l.ties m = true ↔ l.quantity = m.quantity ∧ l.name = m.name := by
  simp [ties]

theorem before_or_ties {l m : MaterialLine} (precedes : l.mayPrecede m = true) :
    l.Before m ∨ l.ties m = true := by
  rw [ties_iff]
  rcases mayPrecede_iff.1 precedes with less | ⟨same, name⟩
  · exact .inl (.inl less)
  · by_cases equal : l.name = m.name
    · exact .inr ⟨same, equal⟩
    · have less : l.name < m.name := by
        rw [← String.not_le]
        exact fun back => equal (String.le_antisymm name back)
      exact .inl (.inr ⟨same, .inl less⟩)

end MaterialLine

namespace Basket

open MaterialLine

/-- The lines by descending quantity and by name. -/
def order (b : Basket) : List MaterialLine :=
  b.lines.mergeSort mayPrecede

theorem order_perm (b : Basket) : b.order.Perm b.lines :=
  List.mergeSort_perm _ _

/-- Lines that tie are left in the order of their types. -/
theorem filter_ties_order (b : Basket) (l : MaterialLine) :
    b.order.filter l.ties = b.lines.filter l.ties := by
  have tied : (b.lines.filter l.ties).Pairwise fun m n => m.mayPrecede n = true := by
    refine List.pairwise_of_forall_mem_list fun m hm n hn => ?_
    obtain ⟨quantity, name⟩ := ties_iff.1 (List.mem_filter.1 hm).2
    obtain ⟨quantity', name'⟩ := ties_iff.1 (List.mem_filter.1 hn).2
    exact mayPrecede_iff.2 (.inr ⟨quantity.symm.trans quantity', name ▸ name' ▸ String.le_refl _⟩)
  have stable : (b.lines.filter l.ties).Sublist b.order :=
    List.sublist_mergeSort mayPrecede_trans mayPrecede_total tied List.filter_sublist
  have among : (b.lines.filter l.ties).Sublist (b.order.filter l.ties) := by
    have kept := stable.filter l.ties
    simpa only [List.filter_filter, Bool.and_self] using kept
  exact (among.eq_of_length (b.order_perm.filter _).length_eq.symm).symm

theorem pairwise_before (b : Basket) : b.order.Pairwise Before := by
  have sorted : b.order.Pairwise fun l m => l.mayPrecede m = true :=
    List.pairwise_mergeSort mayPrecede_trans mayPrecede_total b.lines
  refine List.pairwise_iff_forall_sublist.2 fun {l m} pair => ?_
  rcases before_or_ties (List.pairwise_iff_forall_sublist.1 sorted pair) with before | tie
  · exact before
  · have self : l.ties l = true := ties_iff.2 ⟨rfl, rfl⟩
    have among : [l, m].Sublist b.lines := by
      have kept := pair.filter l.ties
      rw [filter_ties_order, List.filter_cons_of_pos self, List.filter_cons_of_pos tie] at kept
      exact kept.trans List.filter_sublist
    have less : l.typeId < m.typeId := List.pairwise_iff_forall_sublist.1 b.ascending among
    obtain ⟨quantity, name⟩ := ties_iff.1 tie
    exact .inr ⟨quantity, .inr ⟨name, less⟩⟩

end Basket

/-! ## Priced materials -/

/-- An item that shows a line: its name, its quantity and what it reports. Type id 0 stands for no type,
so a line of that id is shown with the type that its name stands for. -/
structure AppraisedItem.Shows (item : AppraisedItem) (l : MaterialLine) : Prop where
  name : item.name = l.name
  quantity : item.quantity = l.quantity
  qualifier : item.qualifier = l.reportedQualifier
  efficiency : item.efficiency = l.reportedEfficiency
  typeId : l.typeId ≠ 0 → item.typeId = l.typeId

/-- The items of a valuation show the lines of a basket, one for each, in the order of materials. -/
def Valuation.Lists (v : Valuation) (b : Basket) : Prop :=
  ∃ order : List MaterialLine, order.Perm b.lines ∧ order.Pairwise MaterialLine.Before ∧
    List.Forall₂ AppraisedItem.Shows v.items order

namespace Buyback

variable {p : Pricing}

theorem sortByQuantity_lineItem (lines : List MaterialLine) :
    AppraisedItem.sortByQuantity (lines.map lineItem) = (lines.mergeSort MaterialLine.mayPrecede).map lineItem := by
  rw [AppraisedItem.sortByQuantity, List.map_mergeSort]
  intro l _ m _
  rfl

theorem shows_priceItem (p : Pricing) (market : String) (adjustments : Table Int Float) (l : MaterialLine) :
    (p.priceItem market adjustments (lineItem l)).Shows l := by
  rcases p.priceItem_cases market adjustments (lineItem l) with ⟨-, same⟩ | ⟨r, _, _, found, same⟩
  · rw [same]
    exact ⟨rfl, rfl, rfl, rfl, fun _ => rfl⟩
  · rw [same]
    exact ⟨rfl, rfl, rfl, rfl, fun resolved => Pricing.settled_of_resolved resolved r found⟩

theorem lists_priceBasket (b : Buyback) (p : Pricing) (basket : Basket) :
    (b.priceBasket p basket).Lists basket := by
  refine ⟨basket.order, basket.order_perm, basket.pairwise_before, ?_⟩
  have items : (b.priceBasket p basket).items = basket.order.map fun l =>
      p.priceItem b.settings.market b.settings.adjustmentTable (lineItem l) := by
    rw [priceBasket, Pricing.priceItems, sortByQuantity_lineItem, List.map_map]
    rfl
  rw [items, List.forall₂_map_left_iff]
  exact List.forall₂_same.2 fun l _ => shows_priceItem p _ _ l

end Buyback

end ItemAppraisal
