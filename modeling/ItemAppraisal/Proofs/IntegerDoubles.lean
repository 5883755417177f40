import ItemAppraisal.Quantity
import Mathlib.Algebra.Order.Ring.Nat
import Mathlib.Data.List.TakeDrop
import Mathlib.Data.List.TakeWhile

/-!
# Doubles of large integers

An integer that is no quantity is read as a double and cut back to the range, which gives the end of the
range that it passed: rounding to 53 binary digits never takes a number of `2^63` or more below `2^63`
(`exists_round_eq`). Main statement: `Quantity.readPlain_eq`.
-/

namespace ItemAppraisal

open Float.Model (Format UnpackedFloat totalExponent)
open Float.Model.UnpackedFloat (Sign ExtendedMantissa Accuracy packComponents roundWithAccuracy
  shiftToTargetExponent unpackExponent unpackMantissa unpackSign)

namespace Decimal

/-! ## Rounding -/

theorem mantissa_shiftRight (em : ExtendedMantissa) (k : Nat) :
    (em >>> k).mantissa = em.mantissa / 2 ^ k := by
  induction k with
  | zero => exact (Nat.div_one _).symm
  | succ k ih =>
    show (em >>> k).mantissa / 2 = _
    rw [ih, Nat.div_div_eq_div_mul, Nat.pow_succ]

theorem roundedMantissa_bounds (em : ExtendedMantissa) :
    em.mantissa ≤ em.roundedMantissa ∧ em.roundedMantissa ≤ em.mantissa + 1 := by
  obtain ⟨m, half, below⟩ := em
  cases half <;> cases below <;>
    simp only [ExtendedMantissa.roundedMantissa, ExtendedMantissa.accuracy, Accuracy.roundToNearestEven] <;>
    omega

theorem targetExponent_eq {t : Int} (normal : -1021 ≤ t) :
    Format.binary64.targetExponent t = t - 53 := by
  have digits : (Format.binary64.mantissaBits : Int) = 53 := rfl
  have least : Format.binary64.minExponent = -1074 := rfl
  rw [Format.targetExponent, digits, least]
  omega

/-- A mantissa of at least 53 binary digits is cut down to 53 of them, and the exponent grows by as many
as are cut off. -/
theorem shiftToTargetExponent_eq {m : Nat} {e : Int} {digits : Nat} (size : m.log2 = 52 + digits)
    (normal : -1074 ≤ e) (a : Accuracy) :
    shiftToTargetExponent Format.binary64 m e a =
      (ExtendedMantissa.ofMantissaAndAccuracy m a >>> digits, e + digits) := by
  have target : Format.binary64.targetExponent (totalExponent m e) = e + digits := by
    rw [targetExponent_eq] <;> rw [totalExponent, size] <;> push_cast <;> omega
  have cut : (e + digits - e).toNat = digits := by omega
  rw [shiftToTargetExponent]
  simp only [target, UnpackedFloat.shiftToExponent, cut]

/-- Rounding keeps 53 binary digits of a mantissa, or gives the least mantissa of the next exponent. -/
theorem exists_round_eq {m : Nat} {e : Int} {digits : Nat} (size : m.log2 = 52 + digits) (filled : m ≠ 0)
    (normal : -1074 ≤ e) (s : Sign) :
    ∃ (m' : Nat) (e' : Int) (h : 0 < m'), leastNormal ≤ m' ∧ m' < 2 * leastNormal ∧ e + digits ≤ e' ∧
      roundWithAccuracy Format.binary64 s m e .exact = .finite s m' e' h := by
  have least : leastNormal = 2 ^ 52 := rfl
  have low : 2 ^ 52 ≤ m / 2 ^ digits := by
    rw [Nat.le_div_iff_mul_le (Nat.two_pow_pos _), ← Nat.pow_add, ← size]
    exact Nat.log2_self_le filled
  have high : m / 2 ^ digits < 2 ^ 53 := by
    rw [Nat.div_lt_iff_lt_mul (Nat.two_pow_pos _), ← Nat.pow_add]
    have below := Nat.lt_log2_self (n := m)
    rwa [size, show 52 + digits + 1 = 53 + digits by omega] at below
  let first := ExtendedMantissa.ofMantissaAndAccuracy m .exact >>> digits
  have cut : first.mantissa = m / 2 ^ digits := mantissa_shiftRight _ _
  obtain ⟨lower, upper⟩ := roundedMantissa_bounds first
  rw [cut] at lower upper
  -- Rounding up may carry into one more digit, which is cut off in the same way.
  obtain ⟨carry, again, kept, short⟩ : ∃ carry : Nat, first.roundedMantissa.log2 = 52 + carry ∧
      2 ^ 52 ≤ first.roundedMantissa / 2 ^ carry ∧ first.roundedMantissa / 2 ^ carry < 2 ^ 53 := by
    by_cases carried : first.roundedMantissa < 2 ^ 53
    · refine ⟨0, (Nat.log2_eq_iff (by omega)).2 ⟨by omega, by omega⟩, by omega, by omega⟩
    · refine ⟨1, (Nat.log2_eq_iff (by omega)).2 ⟨by omega, by omega⟩, by omega, by omega⟩
  let last := ExtendedMantissa.ofMantissaAndAccuracy first.roundedMantissa .exact >>> carry
  have rounded : last.mantissa = first.roundedMantissa / 2 ^ carry := mantissa_shiftRight _ _
  have filled' : last.mantissa ≠ 0 := by omega
  refine ⟨last.mantissa, e + digits + carry, by omega, by omega, by omega, by omega, ?_⟩
  rw [roundWithAccuracy, shiftToTargetExponent_eq size normal]
  dsimp only
  rw [shiftToTargetExponent_eq again (by omega)]
  exact dif_neg filled'

/-! ## Large doubles -/

/-- A double of at least `2^63` in size, with a sign. -/
inductive IsLarge (s : Sign) : UnpackedFloat → Prop where
  | infinite : IsLarge s (.infinity s)
  | normal {m : Nat} {e : Int} (h : 0 < m) (least : leastNormal ≤ m) (short : m < 2 * leastNormal)
      (large : 11 ≤ e) : IsLarge s (.finite s m e h)

/-- The number of the sign bit. -/
def signBit : Sign → Nat
  | .negative => 1
  | .positive => 0

theorem toNat_packComponents (s : Sign) (exponent : BitVec 11) (mantissa : BitVec 52) :
    (packComponents Format.binary64 s exponent mantissa).toNat =
      (signBit s * exponentCount + exponent.toNat) * leastNormal + mantissa.toNat := by
  have bit : s.toBitVec.toNat = signBit s := by cases s <;> rfl
  rw [packComponents, BitVec.toNat_append, BitVec.toNat_append,
    ← Nat.shiftLeft_add_eq_or_of_lt exponent.isLt, ← Nat.shiftLeft_add_eq_or_of_lt mantissa.isLt, bit,
    Nat.shiftLeft_eq, Nat.shiftLeft_eq]
  rfl

/-- The fields of a large double: those of an infinity, or an exponent that is large enough. -/
def AreLarge (exponent : BitVec 11) (mantissa : BitVec 52) : Prop :=
  exponent = -1#11 ∧ mantissa = 0#52 ∨ 1086 ≤ exponent.toNat ∧ exponent.toNat < 2047

theorem pack_finite (s : Sign) (m : Nat) (e : Int) (h : 0 < m) :
    UnpackedFloat.pack Format.binary64 (.finite s m e h) =
      if 2048 ≤ (e + 1023 + 52).toNat + 1 then UnpackedFloat.packedInfinity Format.binary64 s
      else if m.log2 + 1 = 53 then
        packComponents Format.binary64 s (.ofNat 11 (e + 1023 + 52).toNat) (.ofNat 52 m)
      else packComponents Format.binary64 s 0#11 (.ofNat 52 m) := rfl

theorem exists_pack_eq {s : Sign} {u : UnpackedFloat} (large : IsLarge s u) :
    ∃ exponent mantissa, AreLarge exponent mantissa ∧ UnpackedFloat.pack Format.binary64 u =
      packComponents Format.binary64 s exponent mantissa := by
  cases large with
  | infinite => exact ⟨-1#11, 0#52, .inl ⟨rfl, rfl⟩, rfl⟩
  | @normal m e h least short large =>
    have size : m.log2 + 1 = 53 :=
      congrArg (· + 1) ((Nat.log2_eq_iff (by omega)).2 ⟨least, short⟩ : m.log2 = 52)
    rw [pack_finite, if_pos size]
    by_cases beyond : 2048 ≤ (e + 1023 + 52).toNat + 1
    · exact ⟨-1#11, 0#52, .inl ⟨rfl, rfl⟩, if_pos beyond⟩
    · refine ⟨_, _, .inr ?_, if_neg beyond⟩
      rw [BitVec.toNat_ofNat]
      omega

theorem ofBitVec_unpackSign (s : Sign) (exponent : BitVec 11) (mantissa : BitVec 52) :
    Sign.ofBitVec (unpackSign (packComponents Format.binary64 s exponent mantissa)) = s := by
  have bit : (packComponents Format.binary64 s exponent mantissa).extractLsb 63 63 = s.toBitVec := by
    apply BitVec.eq_of_toNat_eq
    rw [BitVec.extractLsb_toNat, toNat_packComponents]
    have small := exponent.isLt
    have small' := mantissa.isLt
    cases s <;> simp [signBit, exponentCount, leastNormal, Sign.toBitVec, Nat.shiftRight_eq_div_pow] <;> omega
  show Sign.ofBitVec ((packComponents Format.binary64 s exponent mantissa).extractLsb 63 63) = s
  rw [bit]
  cases s <;> rfl

theorem unpack_of_infinite {f : Format} {b : BitVec f.numBits} (exponent : unpackExponent b = -1#_)
    (mantissa : unpackMantissa b = 0#_) :
    UnpackedFloat.unpack f b = .infinity (.ofBitVec (unpackSign b)) :=
  (if_pos exponent).trans (if_pos mantissa)

theorem exists_unpack_eq_of_normal {f : Format} {b : BitVec f.numBits} (notInfinite : unpackExponent b ≠ -1#_)
    (notSubnormal : unpackExponent b ≠ 0#_) :
    ∃ h, UnpackedFloat.unpack f b = .finite (.ofBitVec (unpackSign b)) (1#1 ++ unpackMantissa b).toNat
      ((unpackExponent b).toNat - (f.exponentBias + f.mantissaBitsWithoutImplicit)) h :=
  ⟨_, (if_neg notInfinite).trans (if_neg notSubnormal)⟩

theorem isLarge_unpack {b : BitVec Format.binary64.numBits}
    (large : AreLarge (unpackExponent b) (unpackMantissa b)) :
    IsLarge (.ofBitVec (unpackSign b)) (UnpackedFloat.unpack Format.binary64 b) := by
  rcases large with ⟨exponent, mantissa⟩ | ⟨low, high⟩
  · rw [unpack_of_infinite exponent mantissa]
    exact .infinite
  · have notInfinite : unpackExponent b ≠ -1#11 := by
      intro same
      rw [same] at high
      exact absurd high (by decide)
    have notSubnormal : unpackExponent b ≠ 0#11 := by
      intro same
      rw [same] at low
      exact absurd low (by decide)
    have value : (1#1 ++ unpackMantissa b).toNat = leastNormal + (unpackMantissa b).toNat := by
      rw [BitVec.toNat_append, ← Nat.shiftLeft_add_eq_or_of_lt (unpackMantissa b).isLt]
      rfl
    have small : (unpackMantissa b).toNat < leastNormal := (unpackMantissa b).isLt
    have bias : (Format.binary64.exponentBias : Int) = 1023 := rfl
    have places : (Format.binary64.mantissaBitsWithoutImplicit : Int) = 52 := rfl
    obtain ⟨h, unpacked⟩ := exists_unpack_eq_of_normal notInfinite notSubnormal
    rw [unpacked]
    exact .normal h (by omega) (by omega) (by omega)

theorem isLarge_neg {s : Sign} {u : UnpackedFloat} (large : IsLarge s u) : IsLarge (-s) u.neg := by
  cases large with
  | infinite => exact .infinite
  | normal h least short large => exact .normal h least short large

/-- The end of the range on the side of a sign. -/
def endOfRange : Sign → Int
  | .negative => Quantity.least
  | .positive => Quantity.greatest

section Fields

variable {x : Float} {s : Sign} {exponent : BitVec 11} {mantissa : BitVec 52}

theorem isNegative_of_fields
    (bits : x.toBits.toNat = (signBit s * exponentCount + exponent.toNat) * leastNormal + mantissa.toNat) :
    isNegative x = (signBit s == 1) := by
  have small := exponent.isLt
  have small' := mantissa.isLt
  rw [isNegative, bits, wordCount, leastNormal, exponentCount]
  cases s with
  | negative => exact decide_eq_true (by simp only [signBit]; omega)
  | positive => exact decide_eq_false (by simp only [signBit]; omega)

theorem magnitude_of_fields
    (bits : x.toBits.toNat = (signBit s * exponentCount + exponent.toNat) * leastNormal + mantissa.toNat) :
    magnitude x =
      if exponent.toNat == exponentCount - 1 then
        if mantissa.toNat == 0 then .infinite else .notANumber
      else if exponent.toNat == 0 then .finite mantissa.toNat leastExponent
      else .finite (mantissa.toNat + leastNormal) (leastExponent + (exponent.toNat - 1 : Nat)) := by
  have small := exponent.isLt
  have small' := mantissa.isLt
  have field : x.toBits.toNat / leastNormal % exponentCount = exponent.toNat := by
    rw [bits, leastNormal, exponentCount]
    omega
  have digits : x.toBits.toNat % leastNormal = mantissa.toNat := by
    rw [bits, leastNormal, exponentCount]
    omega
  rw [magnitude, field, digits]

end Fields

/-- A double of the size of a normal number with an exponent of 11 or more is beyond the range. -/
theorem ofDouble_of_finite {x : Float} {s : Sign} {m : Nat} {power : Nat}
    (minus : isNegative x = (signBit s == 1)) (least : leastNormal ≤ m)
    (finite : magnitude x = .finite m (11 + power : Nat)) : Quantity.ofDouble x = endOfRange s := by
  have size : 9223372036854775808 ≤ m * Nat.pow 2 (11 + power) :=
    calc 9223372036854775808 = leastNormal * Nat.pow 2 11 := rfl
      _ ≤ m * Nat.pow 2 (11 + power) :=
        Nat.mul_le_mul least (Nat.pow_le_pow_right (by decide) (Nat.le_add_right 11 power))
  have parts : ratio m (11 + power : Nat) = (m * Nat.pow 2 (11 + power), 1) := by
    rw [ratio, if_pos (Int.natCast_nonneg _), Int.toNat_natCast]
  rw [Quantity.ofDouble, truncate?, finite]
  simp only [parts, Nat.div_one, Option.getD_some, minus]
  generalize m * Nat.pow 2 (11 + power) = n at size
  cases s with
  | negative =>
    simp only [signBit, beq_self_eq_true, if_true, Quantity.saturate, Quantity.least, Quantity.greatest,
      endOfRange]
    omega
  | positive =>
    simp only [signBit, Nat.reduceBEq, Bool.false_eq_true, if_false, Quantity.saturate, Quantity.least,
      Quantity.greatest, endOfRange]
    omega

theorem ofDouble_of_isLarge {s : Sign} {u : UnpackedFloat} (large : IsLarge s u) :
    Quantity.ofDouble (.ofModel (.pack u)) = endOfRange s := by
  obtain ⟨exponent, mantissa, fields, packed⟩ := exists_pack_eq large
  let x := Float.ofModel (.pack u)
  have bits : x.toBits.toNat = (signBit s * exponentCount + exponent.toNat) * leastNormal + mantissa.toNat := by
    show (UnpackedFloat.pack Format.binary64 u).toNat = _
    rw [packed, toNat_packComponents]
  have minus := isNegative_of_fields bits
  have size := magnitude_of_fields bits
  show Quantity.ofDouble x = _
  rcases fields with ⟨rfl, rfl⟩ | ⟨low, high⟩
  · have infinite : magnitude x = .infinite := size
    rw [Quantity.ofDouble, infinite]
    simp only [minus]
    cases s <;> rfl
  · have notInfinite : (exponent.toNat == exponentCount - 1) = false := by
      rw [beq_eq_false_iff_ne, exponentCount]
      omega
    have notSubnormal : (exponent.toNat == 0) = false := by
      rw [beq_eq_false_iff_ne]
      omega
    obtain ⟨power, exponents⟩ : ∃ power : Nat,
        leastExponent + ((exponent.toNat - 1 : Nat) : Int) = (11 + power : Nat) :=
      ⟨exponent.toNat - 1086, by rw [leastExponent]; omega⟩
    simp only [notInfinite, notSubnormal, Bool.false_eq_true, if_false, exponents] at size
    exact ofDouble_of_finite minus (Nat.le_add_left _ _) size

/-! ## Large integers -/

theorem exists_of_integer? {s : List Char} {n : Int} (read : integer? s = some n) :
    ∃ (negative : Bool) (row : List Char) (k : Nat), splitSign s = (negative, row) ∧ natural? row = some k ∧
      n = if negative then -(k : Int) else k := by
  rw [integer?] at read
  cases signed : splitSign s with
  | mk negative row =>
    rw [signed] at read
    cases spelled : natural? row with
    | none => simp [spelled] at read
    | some k =>
      refine ⟨negative, row, k, rfl, spelled, ?_⟩
      simpa [spelled, eq_comm] using read

theorem natural?_eq_some_iff {row : List Char} {n : Nat} :
    natural? row = some n ↔ row ≠ [] ∧ (∀ c ∈ row, c.isDigit = true) ∧ value row = n := by
  have numeral : isNumeral row = true ↔ row ≠ [] ∧ ∀ c ∈ row, c.isDigit = true := by simp [isNumeral]
  rw [natural?, ← and_assoc, ← numeral]
  split
  · rename_i spelled
    simp [spelled]
  · rename_i spelled
    simp [spelled]

theorem unsignedDouble?_of_natural? {row : List Char} {n : Nat} (spelled : natural? row = some n) :
    unsignedDouble? row = some (toDouble n 0) := by
  obtain ⟨filled, digits, rfl⟩ := natural?_eq_some_iff.1 spelled
  have whole : row.span Char.isDigit = (row, []) := by
    rw [List.span_eq_takeWhile_dropWhile, List.takeWhile_eq_self_iff.2 digits,
      List.dropWhile_eq_nil_iff.2 digits]
  have some : row.isEmpty = false := by simpa using filled
  simp only [unsignedDouble?, whole, some, Bool.false_and, List.append_nil]
  rfl

theorem ofScientific_eq {n : Nat} (filled : n ≠ 0) : UnpackedFloat.ofScientific Format.binary64 n 0 =
    roundWithAccuracy Format.binary64 .positive (n * 2 ^ 53) (-53) .exact := by
  have moderate : ¬(0 : Int) > 2 ^ Format.binary64.exponentBits := by decide
  have visible : ¬(0 : Int) < -(2 ^ Format.binary64.exponentBits + (n.log2 : Int)) := by
    have bits : (2 : Int) ^ Format.binary64.exponentBits = 2048 := by decide
    rw [bits]
    omega
  have digits : n <<< Format.binary64.mantissaBits * 10 ^ (0 : Int).toNat = n * 2 ^ 53 := by
    rw [Nat.shiftLeft_eq]
    exact Nat.mul_one _
  rw [UnpackedFloat.ofScientific, dif_neg filled, if_neg moderate, if_neg visible, if_pos (Int.le_refl 0)]
  show roundWithAccuracy Format.binary64 .positive
    (n <<< Format.binary64.mantissaBits * 10 ^ (0 : Int).toNat) (-53) .exact = _
  rw [digits]

theorem exists_toDouble_eq {n : Nat} (large : 9223372036854775808 ≤ n) :
    ∃ u, IsLarge .positive u ∧ toDouble n 0 = .ofModel (.pack u) := by
  have counted : ¬((n = 0 || 0 + (powerAbove n : Int) ≤ zeroPower) = true) := by
    rw [Bool.or_eq_true, decide_eq_true_eq, decide_eq_true_eq, zeroPower]
    omega
  rw [toDouble, if_neg counted]
  by_cases beyond : infinitePower ≤ 0 + (powerBelow n : Int)
  · rw [if_pos beyond]
    exact ⟨_, .infinite, by decide +kernel⟩
  · have wide : ¬(n < 2 ^ 53 ∧ (0 : Int).natAbs ≤ 22) := by omega
    have filled : n ≠ 0 := by omega
    have least : 63 ≤ n.log2 := (Nat.le_log2 filled).2 large
    have size : (n * 2 ^ 53).log2 = 52 + (n.log2 + 1) := by
      refine (Nat.log2_eq_iff (by omega)).2 ⟨?_, ?_⟩
      · rw [show 52 + (n.log2 + 1) = n.log2 + 53 by omega, Nat.pow_add]
        exact Nat.mul_le_mul_right _ (Nat.log2_self_le filled)
      · rw [show 52 + (n.log2 + 1) + 1 = n.log2 + 1 + 53 by omega, Nat.pow_add]
        exact Nat.mul_lt_mul_of_pos_right Nat.lt_log2_self (Nat.two_pow_pos 53)
    obtain ⟨m, e, h, low, short, shifted, rounded⟩ :=
      exists_round_eq (e := -53) size (by omega) (by omega) .positive
    have normal : 11 ≤ e := by omega
    refine ⟨_, .normal h low short normal, ?_⟩
    rw [if_neg beyond, Float.ofScientific, dif_neg wide, ← rounded, ← ofScientific_eq filled]
    rfl

/-- An integer that is no quantity, read as a double and cut back to the range. -/
theorem ofDouble_double? {s : List Char} {n : Int} (read : integer? s = some n) (outside : ¬Quantity.InRange n) :
    (double? s).map Quantity.ofDouble = some (Quantity.saturate n) := by
  obtain ⟨negative, row, k, signed, spelled, rfl⟩ := exists_of_integer? read
  have large : 9223372036854775808 ≤ k := by
    simp only [Quantity.InRange, Quantity.least, Quantity.greatest] at outside
    split at outside <;> omega
  obtain ⟨u, isLarge, same⟩ := exists_toDouble_eq large
  simp only [double?, signed, unsignedDouble?_of_natural? spelled, Option.some_or, Option.map_some, same]
  cases negative with
  | false =>
    simp only [Bool.false_eq_true, if_false, ofDouble_of_isLarge isLarge, endOfRange, Quantity.saturate,
      Quantity.least, Quantity.greatest]
    congr 1
    omega
  | true =>
    obtain ⟨exponent, mantissa, fields, packed⟩ := exists_pack_eq isLarge
    have again : IsLarge .positive (Float.Model.pack u).unpack := by
      show IsLarge _ (UnpackedFloat.unpack _ (UnpackedFloat.pack _ u))
      have unpacked := isLarge_unpack (b := packComponents Format.binary64 .positive exponent mantissa)
      rw [UnpackedFloat.unpackExponent_packComponents, UnpackedFloat.unpackMantissa_packComponents,
        ofBitVec_unpackSign] at unpacked
      rw [packed]
      exact unpacked fields
    have negated : Quantity.ofDouble (-(.ofModel (.pack u))) = Quantity.least :=
      ofDouble_of_isLarge (isLarge_neg again)
    simp only [if_true, negated, Quantity.saturate, Quantity.least, Quantity.greatest]
    congr 1
    omega

end Decimal

/-- Reading a number without groups: an integer is cut to the range, although beyond it the integer is read as
a double first. -/
theorem Quantity.readPlain_eq (s : List Char) : readPlain s =
    match Decimal.integer? s with
    | some n => saturate n
    | none => ((Decimal.double? s).map ofDouble).getD 0 := by
  rw [readPlain, integer?]
  cases read : Decimal.integer? s with
  | none => rfl
  | some n =>
    by_cases inRange : InRange n
    · simp [Option.filter, inRange, saturate_of_inRange inRange]
    · simp [Option.filter, inRange, Decimal.ofDouble_double? read inRange]

end ItemAppraisal
