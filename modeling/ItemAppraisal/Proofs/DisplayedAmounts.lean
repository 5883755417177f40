import ItemAppraisal.Proofs.DigitGroups
import ItemAppraisal.Proofs.DoubleValues

/-!
# Amounts that are displayed

An amount is displayed with the digits of its absolute value: some in front of the point and two behind it
(`exists_fixedMagnitude_eq`). Commas stand between the groups of the digits in front of the point, so they
can be taken out again. Main statement: `Amount.display_groups`.
-/

namespace ItemAppraisal

namespace Decimal

/-- With two places there is at least one digit in front of the point. -/
theorem exists_placed_eq (units : Nat) : ∃ whole places, placed 2 units = whole ++ '.' :: places ∧
    Text.IsRun Char.isDigit whole ∧ places.length = 2 ∧ ∀ c ∈ places, c.isDigit = true := by
  let padded := List.replicate (2 + 1 - (digits units).length) '0' ++ digits units
  have size : 3 ≤ padded.length := by
    rw [List.length_append, List.length_replicate]
    omega
  have row : ∀ c ∈ padded, c.isDigit = true := by
    intro c member
    rcases List.mem_append.1 member with zero | digit
    · rw [List.eq_of_mem_replicate zero]
      rfl
    · exact isDigit_of_mem_digits digit
  refine ⟨padded.take (padded.length - 2), padded.drop (padded.length - 2), rfl, ⟨?_, ?_⟩, ?_, ?_⟩
  · rw [← List.length_pos_iff, List.length_take]
    omega
  · exact fun c member => row c (List.mem_of_mem_take member)
  · rw [List.length_drop]
    omega
  · exact fun c member => row c (List.mem_of_mem_drop member)

theorem exists_fixedMagnitude_eq {x : Float} (finite : isFinite x = true) :
    ∃ whole places, fixedMagnitude 2 x = whole ++ '.' :: places ∧
      Text.IsRun Char.isDigit whole ∧ places.length = 2 ∧ ∀ c ∈ places, c.isDigit = true := by
  rw [isFinite] at finite
  rw [fixedMagnitude]
  cases size : magnitude x with
  | finite m q => exact exists_placed_eq _
  | infinite => rw [size] at finite; cases finite
  | notANumber => rw [size] at finite; cases finite

/-- An absolute value is written without a sign. -/
theorem toList_fixed_abs (places : Nat) (x : Float) :
    (fixed places x.abs).toList = fixedMagnitude places x := by
  have same : fixedMagnitude places x.abs = fixedMagnitude places x := by
    rw [fixedMagnitude, fixedMagnitude, magnitude_abs]
  simp only [fixed, isNegative_abs, same]
  exact String.toList_ofList

end Decimal

namespace Amount

open Decimal (fixed fixedMagnitude)

theorem toList_display {x : Float} {whole places : List Char} (digits : ∀ c ∈ whole, c.isDigit = true)
    (text : fixedMagnitude 2 x = whole ++ '.' :: places) :
    (display x).toList = (if x < 0 then ['-'] else []) ++ groupThousands whole ++ '.' :: places := by
  have unmarked : ∀ c ∈ whole, (c != '.') = true := fun c member => by
    simp [bne, Quantity.ne_point_of_isDigit (digits c member)]
  have split : (fixedMagnitude 2 x).span (· != '.') = (whole, '.' :: places) := by
    rw [text, List.span_eq_takeWhile_dropWhile, List.takeWhile_append_of_pos unmarked,
      List.dropWhile_append_of_pos unmarked]
    simp
  simp only [display, split]
  exact String.toList_ofList

theorem head?_groupThousands (row : List Char) : (groupThousands row).head? = row.head? := by
  cases row with
  | nil => rfl
  | cons c rest =>
    rw [groupThousands]
    split <;> rfl

theorem exists_groups {row : List Char} (filled : row ≠ []) : ∃ first others, row = (first :: others).flatten ∧
    groupThousands row = [','].intercalate (first :: others) ∧
    1 ≤ first.length ∧ first.length ≤ 3 ∧ ∀ group ∈ others, group.length = 3 := by
  obtain ⟨first, others, groups, joined, marked⟩ := Quantity.exists_groups [','] filled
  have front := groups.front
  rw [Quantity.groupThousands_eq_grouped]
  exact ⟨first, others, joined, marked, by omega, by omega, groups.threes⟩

/-- What is left of a displayed amount without its commas and its sign. -/
def ungrouped (text : String) : List Char :=
  text.toList.filter fun c => c != ',' && c != '-'

section

variable {x : Float} {whole places : List Char} (digits : ∀ c ∈ whole, c.isDigit = true)
  (text : fixedMagnitude 2 x = whole ++ '.' :: places)
include digits text

theorem ungrouped_display (digits' : ∀ c ∈ places, c.isDigit = true) :
    ungrouped (display x) = fixedMagnitude 2 x := by
  have kept {c : Char} (digit : c.isDigit = true) : (c != ',' && c != '-') = true := by
    rw [Bool.and_eq_true, bne_iff_ne, bne_iff_ne]
    constructor <;> rintro rfl <;> cases digit
  have sign : (if x < 0 then ['-'] else []).filter (fun c => c != ',' && c != '-') = [] := by
    split <;> rfl
  have front : (groupThousands whole).filter (fun c => c != ',' && c != '-') = whole := by
    rw [Quantity.groupThousands_eq_grouped]
    exact Quantity.filter_grouped (by simp) fun c member => kept (digits c member)
  have back : ('.' :: places).filter (fun c => c != ',' && c != '-') = '.' :: places := by
    exact List.filter_eq_self.2 (List.forall_mem_cons.2 ⟨rfl, fun c member => kept (digits' c member)⟩)
  rw [ungrouped, toList_display digits text, List.filter_append, List.filter_append, sign, front, back, text]
  rfl

theorem head?_display (filled : whole ≠ []) :
    (x < 0 → (display x).toList.head? = some '-') ∧
    (¬x < 0 → ∃ c, (display x).toList.head? = some c ∧ c.isDigit = true) := by
  rw [toList_display digits text]
  constructor
  · intro negative
    rw [if_pos negative]
    rfl
  · intro other
    obtain ⟨c, rest, rfl⟩ := List.exists_cons_of_ne_nil filled
    have first : (groupThousands (c :: rest) ++ '.' :: places).head? = some c := by
      rw [List.head?_append, head?_groupThousands]
      rfl
    rw [if_neg other, List.nil_append]
    exact ⟨c, first, digits c List.mem_cons_self⟩

end

/-- Commas between thousands cut digits into groups of three, with one to three digits in the first. A finite
amount is displayed as the digits of its absolute value with two places, and with such commas in front of
the point: the digits are what is left without the commas and the sign. The text begins with no comma, and
with a minus if and only if the amount is negative. -/
theorem display_groups :
    (∀ row : List Char, row ≠ [] → ∃ first others, row = (first :: others).flatten ∧
      groupThousands row = [','].intercalate (first :: others) ∧
      1 ≤ first.length ∧ first.length ≤ 3 ∧ ∀ group ∈ others, group.length = 3) ∧
    ∀ x : Float, Decimal.isFinite x = true →
      (∃ whole places, (fixed 2 x.abs).toList = whole ++ '.' :: places ∧ whole ≠ [] ∧ places.length = 2 ∧
        (∀ c ∈ whole ++ places, c.isDigit = true) ∧
        (display x).toList = (if x < 0 then ['-'] else []) ++ groupThousands whole ++ '.' :: places) ∧
      ungrouped (display x) = (fixed 2 x.abs).toList ∧
      (display x).toList.head? ≠ some ',' ∧ ((display x).toList.head? = some '-' ↔ x < 0) := by
  refine ⟨fun row filled => exists_groups filled, fun x finite => ?_⟩
  obtain ⟨whole, places, text, ⟨filled, digits⟩, two, digits'⟩ := Decimal.exists_fixedMagnitude_eq finite
  obtain ⟨minus, plain⟩ := head?_display digits text filled
  have start : (display x).toList.head? ≠ some ',' ∧ ((display x).toList.head? = some '-' ↔ x < 0) := by
    by_cases negative : x < 0
    · rw [minus negative]
      exact ⟨by decide, fun _ => negative, fun _ => rfl⟩
    · obtain ⟨c, first, digit⟩ := plain negative
      rw [first, Option.some_inj, ne_eq, Option.some_inj]
      refine ⟨?_, ?_, fun less => absurd less negative⟩ <;> rintro rfl <;> cases digit
  rw [Decimal.toList_fixed_abs]
  exact ⟨⟨whole, places, text, filled, two, List.forall_mem_append.2 ⟨digits, digits'⟩,
    toList_display digits text⟩, ungrouped_display digits text digits', start⟩

theorem display_groups_of_debt :
    Decimal.isFinite (-1234567.891) = true ∧
    ungrouped (display (-1234567.891)) = "1234567.89".toList ∧
    (display (-1234567.891)).toList.head? = some '-' := by
  have finite : Decimal.isFinite (-1234567.891) = true := by decide +kernel
  have text : (fixed 2 (Float.abs (-1234567.891))).toList = "1234567.89".toList := by decide +kernel
  have negative : (-1234567.891 : Float) < 0 := by decide +kernel
  obtain ⟨-, left, -, minus⟩ := display_groups.2 _ finite
  exact ⟨finite, left.trans text, minus.2 negative⟩

end Amount

end ItemAppraisal
