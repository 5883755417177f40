/-!
# The value of a double

A finite double is `±m · 2^q` for natural `m` and integer `q`; whatever is decided about its digits is
decided on these two numbers.
-/

namespace ItemAppraisal.Decimal

/-- A double without its sign. -/
inductive Magnitude where
  /-- The number `m · 2^q`. -/
  | finite (m : Nat) (q : Int)
  | infinite
  | notANumber
  deriving DecidableEq, Repr

/-- The number of words of 64 bits, `2^64`. -/
def wordCount : Nat := 18446744073709551616

/-- The least exponent of a double, that of the subnormal numbers. -/
def leastExponent : Int := -1074

/-- The least mantissa of a normal double, `2^52`. -/
def leastNormal : Nat := 4503599627370496

/-- The number of values of the exponent field. -/
def exponentCount : Nat := 2048

/-- The magnitude of a double: the hidden bit is set unless the exponent field is zero. -/
def magnitude (x : Float) : Magnitude :=
  let bits := x.toBits.toNat
  let exponent := bits / leastNormal % exponentCount
  let mantissa := bits % leastNormal
  if exponent == exponentCount - 1 then
    if mantissa == 0 then .infinite else .notANumber
  else if exponent == 0 then .finite mantissa leastExponent
  else .finite (mantissa + leastNormal) (leastExponent + (exponent - 1 : Nat))

/-- Whether the sign bit is set. -/
def isNegative (x : Float) : Bool :=
  wordCount ≤ 2 * x.toBits.toNat

/-- A double that is a number and not infinite. -/
def isFinite (x : Float) : Bool :=
  match magnitude x with
  | .finite _ _ => true
  | _ => false

/-- The numerator and denominator of `m · 2^q`. -/
def ratio (m : Nat) (q : Int) : Nat × Nat :=
  if 0 ≤ q then (m * Nat.pow 2 q.toNat, 1) else (m, Nat.pow 2 (-q).toNat)

/-- The largest integer not above the double, `none` if it is not finite. -/
def floor? (x : Float) : Option Int :=
  match magnitude x with
  | .finite m q =>
    let (num, den) := ratio m q
    some (if isNegative x then Int.fdiv (-(num : Int)) den else num / den)
  | _ => none

/-- The integer next to the double in the direction of zero, `none` if it is not finite. -/
def truncate? (x : Float) : Option Int :=
  match magnitude x with
  | .finite m q =>
    let (num, den) := ratio m q
    some (if isNegative x then -(num / den : Nat) else (num / den : Nat))
  | _ => none

/-- A position in a total order of doubles: negative zero stands below zero, and NaN below all others. -/
def orderKey (x : Float) : Int :=
  let bits := x.toBits.toNat
  if x.isNaN then -wordCount
  else if isNegative x then wordCount / 2 - 1 - bits
  else bits

/-- The lesser of two doubles, the other one if one is NaN. -/
def least (x y : Float) : Float :=
  if x.isNaN || y < x then y else x

/-! ## Equality -/

open Float.Model (UnpackedFloat)

theorem beq_of_number {x : UnpackedFloat} (number : x ≠ .notANumber) : x.beq x = true := by
  cases x with
  | notANumber => exact absurd rfl number
  | zero s => cases s <;> rfl
  | infinity s => cases s <;> rfl
  | finite s m e positive =>
    have same : (compare e e).then (compare m m) = .eq := by simp
    cases s with
    | positive =>
      show (some ((compare e e).then (compare m m)) == some .eq) = true
      rw [same]
      rfl
    | negative =>
      show (some ((compare e e).then (compare m m)).swap == some .eq) = true
      rw [same]
      rfl

/-- A positive double is a number, so it equals itself. -/
theorem beq_self_of_pos {x : Float} (positive : 0 < x) : (x == x) = true := by
  have less : UnpackedFloat.lt (Float.toModel 0).unpack x.toModel.unpack = true :=
    of_decide_eq_true positive
  have number : x.toModel.unpack ≠ .notANumber := by
    intro same
    rw [same] at less
    cases zero : (Float.toModel 0).unpack with
    | notANumber => rw [zero] at less; cases less
    | zero s => rw [zero] at less; cases less
    | infinity s => rw [zero] at less; cases s <;> cases less
    | finite s m e _ => rw [zero] at less; cases s <;> cases less
  exact beq_of_number number

theorem beq_self_of_isFinite {x : Float} (finite : x.isFinite = true) : (x == x) = true := by
  have kind : x.toModel.unpack.isFinite = true := finite
  have number : x.toModel.unpack ≠ .notANumber := by
    intro same
    rw [same] at kind
    cases kind
  exact beq_of_number number

theorem zero_beq_of_beq_zero {x : Float} (zero : (x == 0) = true) : ((0 : Float) == x) = true := by
  have equal : x.toModel.unpack.beq (.zero .positive) = true := zero
  show (UnpackedFloat.zero .positive).beq x.toModel.unpack = true
  cases same : x.toModel.unpack with
  | notANumber => rw [same] at equal; cases equal
  | zero s => cases s <;> rfl
  | infinity s => rw [same] at equal; cases s <;> cases equal
  | finite s m e _ => rw [same] at equal; cases s <;> cases equal

end ItemAppraisal.Decimal
