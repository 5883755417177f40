import ItemAppraisal.Quantity
import Mathlib.Algebra.Order.BigOperators.Group.List
import Mathlib.Algebra.Order.Ring.Int

/-!
# Sums by key

Quantities are added up under keys, such as names or types, and each of these sums stops at the end of the
range. The sum over all keys does not stop there. Main statement: it stays in the range if all units make a
quantity together or stand under one key, and only then (`AreSumsOf.inRange_iff`).
-/

namespace ItemAppraisal.Quantity

variable {κ : Type} [DecidableEq κ] {rows pieces : List (κ × Int)} {keys : List κ}

/-- The sum of the quantities. -/
def total (rows : List (κ × Int)) : Int :=
  (rows.map (·.2)).foldr (· + ·) 0

/-- The units under a key. -/
def unitsOf (pieces : List (κ × Int)) (key : κ) : Int :=
  total (pieces.filter (·.1 == key))

/-- One row for each key of the pieces, with the units of the key up to the greatest quantity. -/
structure AreSumsOf (rows pieces : List (κ × Int)) : Prop where
  nodup : (rows.map (·.1)).Nodup
  keys : ∀ key, key ∈ rows.map (·.1) ↔ key ∈ pieces.map (·.1)
  amount : ∀ row ∈ rows, row.2 = min (unitsOf pieces row.1) greatest

/-- All units make a quantity together, or stand under one key. -/
def FitTogether (pieces : List (κ × Int)) : Prop :=
  total pieces ≤ greatest ∨ ∃ key, ∀ piece ∈ pieces, 0 < piece.2 → piece.1 = key

/-! ## Units -/

omit [DecidableEq κ] in
theorem total_nonneg (nonneg : ∀ row ∈ rows, 0 ≤ row.2) : 0 ≤ total rows :=
  sum_nonneg (List.forall_mem_map.2 nonneg)

omit [DecidableEq κ] in
theorem le_total (nonneg : ∀ row ∈ rows, 0 ≤ row.2) {row : κ × Int} (member : row ∈ rows) :
    row.2 ≤ total rows :=
  List.single_le_sum (List.forall_mem_map.2 nonneg) row.2 (List.mem_map_of_mem member)

theorem unitsOf_nonneg (nonneg : ∀ piece ∈ pieces, 0 ≤ piece.2) (key : κ) : 0 ≤ unitsOf pieces key :=
  total_nonneg fun piece member => nonneg piece (List.mem_of_mem_filter member)

theorem le_unitsOf (nonneg : ∀ piece ∈ pieces, 0 ≤ piece.2) {piece : κ × Int} (member : piece ∈ pieces) :
    piece.2 ≤ unitsOf pieces piece.1 :=
  le_total (fun piece inside => nonneg piece (List.mem_of_mem_filter inside))
    (List.mem_filter.2 ⟨member, beq_self_eq_true _⟩)

theorem unitsOf_cons (piece : κ × Int) (pieces : List (κ × Int)) (key : κ) :
    unitsOf (piece :: pieces) key = (if key = piece.1 then piece.2 else 0) + unitsOf pieces key := by
  rw [unitsOf, List.filter_cons]
  by_cases own : key = piece.1
  · rw [if_pos (beq_iff_eq.2 own.symm), if_pos own]
    rfl
  · rw [if_neg (by simpa using Ne.symm own), if_neg own, Int.zero_add]
    rfl

/-- Of distinct keys at most one is a given one. -/
theorem sum_ite_key (nodup : keys.Nodup) (key : κ) (units : Int) :
    (keys.map fun k => if k = key then units else 0).sum = if key ∈ keys then units else 0 := by
  induction keys with
  | nil => rfl
  | cons k keys ih =>
    obtain ⟨fresh, distinct⟩ := List.nodup_cons.1 nodup
    rw [List.map_cons, List.sum_cons, ih distinct]
    by_cases own : k = key
    · subst own
      simp [fresh]
    · simp [own, Ne.symm own]

/-- The units of all keys are all units. -/
theorem sum_unitsOf (nodup : keys.Nodup) (covered : ∀ piece ∈ pieces, piece.1 ∈ keys) :
    (keys.map (unitsOf pieces)).sum = total pieces := by
  induction pieces with
  | nil => exact List.sum_eq_zero (List.forall_mem_map.2 fun _ _ => rfl)
  | cons piece pieces ih =>
    obtain ⟨own, others⟩ := List.forall_mem_cons.1 covered
    have units : unitsOf (piece :: pieces) = fun key =>
        (if key = piece.1 then piece.2 else 0) + unitsOf pieces key := funext (unitsOf_cons piece pieces)
    rw [units, List.sum_map_add, sum_ite_key nodup, if_pos own, ih others]
    rfl

/-! ## Rows -/

namespace AreSumsOf

variable (sums : AreSumsOf rows pieces) (nonneg : ∀ piece ∈ pieces, 0 ≤ piece.2)
include sums

theorem sum_units : (rows.map fun row => unitsOf pieces row.1).sum = total pieces := by
  have covered : ∀ piece ∈ pieces, piece.1 ∈ rows.map (·.1) := fun piece member =>
    (sums.keys piece.1).2 (List.mem_map_of_mem member)
  rw [← sum_unitsOf sums.nodup covered, List.map_map]
  rfl

include nonneg

theorem amount_nonneg : ∀ row ∈ rows, 0 ≤ row.2 := by
  intro row member
  have units := unitsOf_nonneg nonneg row.1
  rw [sums.amount row member]
  exact le_min units (by decide)

theorem total_le_of_fitTogether (fit : FitTogether pieces) : total rows ≤ greatest := by
  rcases fit with small | ⟨key, only⟩
  · calc total rows
        ≤ (rows.map fun row => unitsOf pieces row.1).sum :=
          List.sum_le_sum fun row member => (sums.amount row member).le.trans (min_le_left _ _)
      _ = total pieces := sums.sum_units
      _ ≤ greatest := small
  · -- All rows but that of the key are empty.
    have amounts : ∀ row ∈ rows, row.2 = if row.1 = key then min (unitsOf pieces key) greatest else 0 := by
      intro row member
      split
      · rename_i own
        rw [← own]
        exact sums.amount row member
      · rename_i other
        have empty : unitsOf pieces row.1 = 0 := by
          refine List.sum_eq_zero (List.forall_mem_map.2 fun piece inside => ?_)
          obtain ⟨among, same⟩ := List.mem_filter.1 inside
          refine le_antisymm (Int.not_lt.1 fun some => ?_) (nonneg piece among)
          exact other ((beq_iff_eq.1 same).symm.trans (only piece among some))
        rw [sums.amount row member, empty]
        decide
    have whole : total rows =
        ((rows.map (·.1)).map fun k => if k = key then min (unitsOf pieces key) greatest else 0).sum := by
      rw [List.map_map]
      exact congrArg List.sum (List.map_congr_left amounts)
    rw [whole, sum_ite_key sums.nodup]
    split
    · exact min_le_right _ _
    · decide

theorem fitTogether_of_total_le (small : total rows ≤ greatest) : FitTogether pieces := by
  have filled := sums.amount_nonneg nonneg
  by_cases full : ∃ row ∈ rows, greatest < unitsOf pieces row.1
  · -- A full row leaves no room for another one.
    obtain ⟨row, member, beyond⟩ := full
    refine .inr ⟨row.1, fun piece inside positive => ?_⟩
    by_contra other
    obtain ⟨row', member', key⟩ := List.mem_map.1 ((sums.keys piece.1).2 (List.mem_map_of_mem inside))
    have units := le_unitsOf nonneg inside
    have distinct : row' ≠ row := fun same => other (key.symm.trans (same ▸ rfl))
    have split : total rows = row.2 + total (rows.erase row) :=
      sum_perm ((List.perm_cons_erase member).map Prod.snd)
    have room : row'.2 ≤ total (rows.erase row) :=
      le_total (fun k among => filled k (List.mem_of_mem_erase among)) ((List.mem_erase_of_ne distinct).2 member')
    have amount := sums.amount row member
    have amount' := sums.amount row' member'
    rw [key] at amount'
    have positive' : 0 < greatest := by decide
    omega
  · refine .inl ?_
    have amounts : ∀ row ∈ rows, unitsOf pieces row.1 = row.2 := by
      intro row member
      have limited : unitsOf pieces row.1 ≤ greatest := Int.not_lt.1 fun beyond => full ⟨row, member, beyond⟩
      rw [sums.amount row member, min_eq_left limited]
    rw [← sums.sum_units, List.map_congr_left amounts]
    exact small

theorem inRange_iff : InRange (total rows) ↔ FitTogether pieces := by
  have positive := total_nonneg (sums.amount_nonneg nonneg)
  constructor
  · rintro ⟨-, small⟩
    exact sums.fitTogether_of_total_le nonneg small
  · intro fit
    exact ⟨Int.le_trans (by decide) positive, sums.total_le_of_fitTogether nonneg fit⟩

end AreSumsOf

end ItemAppraisal.Quantity
