import ItemAppraisal.Decimal.Binary64

/-!
# Fixed decimal places

A double with a given number of digits after the point. The digits are those of the exact value; a half
goes to the even neighbour. Main statement: `roundDiv` is within half a unit of the quotient
(`roundDiv_near`).
-/

namespace ItemAppraisal.Decimal

/-- The quotient rounded to the nearest natural number, a half to the even one. -/
def roundDiv (num den : Nat) : Nat :=
  let below := num / den
  let twice := 2 * (num % den)
  if twice < den then below
  else if den < twice then below + 1
  else below + below % 2

theorem roundDiv_near (num den : Nat) (h : 0 < den) :
    2 * (roundDiv num den * den) ≤ 2 * num + den ∧
      2 * num ≤ 2 * (roundDiv num den * den) + den := by
  have hd := Nat.div_add_mod num den
  have hr := Nat.mod_lt num h
  have hp : den * (num / den) = num / den * den := Nat.mul_comm _ _
  simp only [roundDiv]
  split
  · omega
  · split
    · rw [Nat.add_mul]; omega
    · rcases Nat.mod_two_eq_zero_or_one (num / den) with h2 | h2 <;> rw [h2]
      · rw [Nat.add_zero]; omega
      · rw [Nat.add_mul]; omega

/-- The decimal digits of a natural number. -/
def digits (n : Nat) : List Char :=
  Nat.toDigits 10 n

/-- A whole number of units of the last of `places` digits after the point. -/
def placed (places units : Nat) : List Char :=
  let text := digits units
  let padded := List.replicate (places + 1 - text.length) '0' ++ text
  let whole := padded.take (padded.length - places)
  if places == 0 then whole else whole ++ '.' :: padded.drop (padded.length - places)

/-- The magnitude of a double with `places` digits after the point. -/
def fixedMagnitude (places : Nat) (x : Float) : List Char :=
  match magnitude x with
  | .finite m q =>
    let (num, den) := ratio m q
    placed places (roundDiv (num * Nat.pow 10 places) den)
  | .infinite => "inf".toList
  | .notANumber => "NaN".toList

/-- A double with `places` digits after the point; a zero keeps its sign. -/
def fixed (places : Nat) (x : Float) : String :=
  let text := fixedMagnitude places x
  String.ofList (if isNegative x && !x.isNaN then '-' :: text else text)

end ItemAppraisal.Decimal
