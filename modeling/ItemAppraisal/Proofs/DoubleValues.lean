import ItemAppraisal.Proofs.IntegerDoubles

/-!
# Doubles as values

The fields of a double can be read off its value (`pack_unpack`), so doubles of the same value are the same
double. Doubles compare as equal if they are the same number or both zero (`beq_iff`): a double that is
neither NaN nor zero equals itself and no other. Main statements: equal doubles compare alike with every
third one (`beq_congr`); for a positive double equality is identity (`beq_iff_eq_of_pos`); an absolute value
has the same magnitude and no sign (`magnitude_abs`, `isNegative_abs`).
-/

namespace ItemAppraisal.Decimal

open Float.Model (Format UnpackedFloat)
open Float.Model.UnpackedFloat (Sign packComponents unpackExponent unpackMantissa unpackSign)

/-! ## Fields -/

/-- A word is made of its three fields. -/
theorem packComponents_unpack (b : BitVec Format.binary64.numBits) :
    packComponents Format.binary64 (.ofBitVec (unpackSign b)) (unpackExponent b) (unpackMantissa b) = b := by
  have bit (v : BitVec 1) : signBit (.ofBitVec v) = v.toNat := by
    revert v
    decide
  have sign : (b.extractLsb 63 63).toNat = b.toNat / 2 ^ 63 % 2 := by
    rw [BitVec.extractLsb_toNat, Nat.shiftRight_eq_div_pow]
  have exponent : (b.extractLsb 62 52).toNat = b.toNat / 2 ^ 52 % 2 ^ 11 := by
    rw [BitVec.extractLsb_toNat, Nat.shiftRight_eq_div_pow]
  have mantissa : (b.extractLsb 51 0).toNat = b.toNat % 2 ^ 52 := by
    rw [BitVec.extractLsb_toNat, Nat.shiftRight_zero]
  have size : b.toNat < 2 ^ 64 := b.isLt
  apply BitVec.eq_of_toNat_eq
  rw [toNat_packComponents, bit]
  show ((b.extractLsb 63 63).toNat * exponentCount + (b.extractLsb 62 52).toNat) * leastNormal +
    (b.extractLsb 51 0).toNat = b.toNat
  rw [sign, exponent, mantissa, exponentCount, leastNormal]
  omega

theorem packComponents_eq {b : BitVec Format.binary64.numBits} {exponent : BitVec 11} {mantissa : BitVec 52}
    (he : unpackExponent b = exponent) (hm : unpackMantissa b = mantissa) :
    packComponents Format.binary64 (.ofBitVec (unpackSign b)) exponent mantissa = b := by
  subst he hm
  exact packComponents_unpack b

theorem unpack_of_notANumber {f : Format} {b : BitVec f.numBits} (exponent : unpackExponent b = -1#_)
    (mantissa : unpackMantissa b ≠ 0#_) : UnpackedFloat.unpack f b = .notANumber :=
  (if_pos exponent).trans (if_neg mantissa)

theorem unpack_of_zero {b : BitVec Format.binary64.numBits} (exponent : unpackExponent b = 0#11)
    (mantissa : unpackMantissa b = 0#52) :
    UnpackedFloat.unpack Format.binary64 b = .zero (.ofBitVec (unpackSign b)) := by
  have finite : unpackExponent b ≠ -1#11 := by
    rw [exponent]
    decide
  exact (if_neg finite).trans ((if_pos exponent).trans (dif_pos mantissa))

theorem exists_unpack_eq_of_subnormal {b : BitVec Format.binary64.numBits} (exponent : unpackExponent b = 0#11)
    (mantissa : unpackMantissa b ≠ 0#52) :
    ∃ h, UnpackedFloat.unpack Format.binary64 b =
      .finite (.ofBitVec (unpackSign b)) (unpackMantissa b).toNat leastExponent h := by
  have finite : unpackExponent b ≠ -1#11 := by
    rw [exponent]
    decide
  have least : ((unpackExponent b).toNat : Int) -
      (Format.binary64.exponentBias + Format.binary64.mantissaBitsWithoutImplicit) + 1 = leastExponent := by
    rw [exponent]
    rfl
  rw [← least]
  exact ⟨_, (if_neg finite).trans ((if_pos exponent).trans (dif_neg mantissa))⟩

theorem pack_unpack {b : BitVec Format.binary64.numBits} (valid : Format.binary64.Valid b) :
    UnpackedFloat.pack Format.binary64 (UnpackedFloat.unpack Format.binary64 b) = b := by
  have small : (unpackMantissa b).toNat < 2 ^ 52 := (unpackMantissa b).isLt
  have small' : (unpackExponent b).toNat < 2 ^ 11 := (unpackExponent b).isLt
  by_cases infinite : unpackExponent b = -1#11
  · by_cases empty : unpackMantissa b = 0#52
    · rw [unpack_of_infinite infinite empty]
      exact packComponents_eq infinite empty
    · rw [unpack_of_notANumber infinite empty]
      exact (valid.eq_packedNaN infinite empty).symm
  · by_cases subnormal : unpackExponent b = 0#11
    · by_cases empty : unpackMantissa b = 0#52
      · rw [unpack_of_zero subnormal empty]
        exact packComponents_eq subnormal empty
      · -- The mantissa is too short for the hidden bit, so the exponent field stays zero.
        obtain ⟨h, unpacked⟩ := exists_unpack_eq_of_subnormal subnormal empty
        have short : ¬((unpackMantissa b).toNat.log2 + 1 = 53) := by
          have below := (Nat.log2_lt (by omega)).2 small
          omega
        rw [unpacked, pack_finite, if_neg (by decide), if_neg short]
        refine packComponents_eq subnormal ?_
        rw [BitVec.ofNat_toNat, BitVec.setWidth_eq]
    · have exponent : (unpackExponent b).toNat ≠ 2047 := fun same => infinite (BitVec.eq_of_toNat_eq same)
      have value : (1#1 ++ unpackMantissa b).toNat = 2 ^ 52 + (unpackMantissa b).toNat := by
        rw [BitVec.toNat_append, ← Nat.shiftLeft_add_eq_or_of_lt (unpackMantissa b).isLt]
        rfl
      have size : (1#1 ++ unpackMantissa b).toNat.log2 + 1 = 53 :=
        congrArg (· + 1) ((Nat.log2_eq_iff (by omega)).2 ⟨by omega, by omega⟩)
      have bias : (Format.binary64.exponentBias : Int) = 1023 := rfl
      have places : (Format.binary64.mantissaBitsWithoutImplicit : Int) = 52 := rfl
      have field : ((unpackExponent b).toNat - ((Format.binary64.exponentBias : Int) +
          Format.binary64.mantissaBitsWithoutImplicit) + 1023 + 52).toNat = (unpackExponent b).toNat := by
        omega
      obtain ⟨h, unpacked⟩ := exists_unpack_eq_of_normal infinite subnormal
      rw [unpacked, pack_finite, field, if_neg (by omega), if_pos size]
      refine packComponents_eq ?_ ?_
      · rw [BitVec.ofNat_toNat, BitVec.setWidth_eq]
      · refine BitVec.eq_of_toNat_eq ?_
        rw [BitVec.toNat_ofNat, value]
        show _ = (2 ^ 52 + (unpackMantissa b).toNat) % 2 ^ 52
        omega

/-- A double is what its value is packed into. -/
theorem ofModel_pack_unpack (x : Float) : Float.ofModel (.pack x.toModel.unpack) = x := by
  obtain ⟨⟨bits, valid⟩⟩ := x
  have word : UInt64.ofBitVec (UnpackedFloat.pack Format.binary64
      (UnpackedFloat.unpack Format.binary64 bits.toBitVec)) = bits := by
    rw [pack_unpack valid]
  exact congrArg Float.ofModel (Float.Model.mk.injEq .. ▸ word)

/-- Doubles of the same value are the same double. -/
theorem eq_of_unpack_eq {x y : Float} (same : x.toModel.unpack = y.toModel.unpack) : x = y := by
  rw [← ofModel_pack_unpack x, same, ofModel_pack_unpack]

/-! ## Absolute values -/

/-- A value and its absolute value differ in the sign bit only. -/
theorem exists_fields_abs (x : Float) : ∃ (s : Sign) (exponent : BitVec 11) (mantissa : BitVec 52),
    x.toBits.toNat = (signBit s * exponentCount + exponent.toNat) * leastNormal + mantissa.toNat ∧
      x.abs.toBits.toNat =
        (signBit .positive * exponentCount + exponent.toNat) * leastNormal + mantissa.toNat := by
  obtain ⟨s, exponent, mantissa, own, positive⟩ : ∃ s exponent mantissa,
      UnpackedFloat.pack Format.binary64 x.toModel.unpack =
        packComponents Format.binary64 s exponent mantissa ∧
      UnpackedFloat.pack Format.binary64 x.toModel.unpack.abs =
        packComponents Format.binary64 .positive exponent mantissa := by
    cases x.toModel.unpack with
    | notANumber => exact ⟨.positive, _, _, rfl, rfl⟩
    | zero s => exact ⟨s, _, _, rfl, rfl⟩
    | infinity s => exact ⟨s, _, _, rfl, rfl⟩
    | finite s m e h =>
      have positive : (UnpackedFloat.finite s m e h).abs = .finite .positive m e h := rfl
      rw [positive, pack_finite, pack_finite]
      split
      · exact ⟨s, _, _, rfl, rfl⟩
      · split <;> exact ⟨s, _, _, rfl, rfl⟩
  refine ⟨s, exponent, mantissa, ?_, ?_⟩
  · rw [← toNat_packComponents, ← own]
    exact congrArg (·.toBits.toNat) (ofModel_pack_unpack x).symm
  · rw [← toNat_packComponents, ← positive]
    rfl

theorem magnitude_abs (x : Float) : magnitude x.abs = magnitude x := by
  obtain ⟨s, exponent, mantissa, bits, bits'⟩ := exists_fields_abs x
  rw [magnitude_of_fields bits, magnitude_of_fields bits']

theorem isNegative_abs (x : Float) : isNegative x.abs = false := by
  obtain ⟨s, exponent, mantissa, -, bits⟩ := exists_fields_abs x
  rw [isNegative_of_fields bits]
  rfl

/-! ## Comparisons -/

/-- A value that is zero, with either sign. -/
def IsZero (u : UnpackedFloat) : Prop :=
  ∃ s, u = .zero s

theorem finite_eq_of_beq {s s' : Sign} {m m' : Nat} {e e' : Int} {h : 0 < m} {h' : 0 < m'}
    (equal : (UnpackedFloat.finite s m e h).beq (.finite s' m' e' h') = true) :
    UnpackedFloat.finite s m e h = .finite s' m' e' h' := by
  -- The exponents are compared first, then the mantissas.
  have fields (same : (compare e e').then (compare m m') = .eq) : e = e' ∧ m = m' := by
    rwa [Ordering.then_eq_eq, compare_eq_iff_eq, compare_eq_iff_eq] at same
  cases s with
  | positive =>
    cases s' with
    | positive =>
      obtain ⟨rfl, rfl⟩ := fields (Option.some.inj (beq_iff_eq.1 equal))
      rfl
    | negative => cases equal
  | negative =>
    cases s' with
    | positive => cases equal
    | negative =>
      obtain ⟨rfl, rfl⟩ := fields (Ordering.swap_eq_eq.1 (Option.some.inj (beq_iff_eq.1 equal)))
      rfl

/-- What compares as equal is the same number, or zero twice. -/
theorem unpacked_beq_iff {u v : UnpackedFloat} :
    u.beq v = true ↔ u ≠ .notANumber ∧ u = v ∨ IsZero u ∧ IsZero v := by
  constructor
  · intro equal
    cases u with
    | notANumber => cases equal
    | zero s =>
      cases v with
      | notANumber => cases equal
      | zero s' => exact .inr ⟨⟨s, rfl⟩, ⟨s', rfl⟩⟩
      | infinity s' => cases s' <;> cases equal
      | finite s' m e h => cases s' <;> cases equal
    | infinity s =>
      cases v with
      | notANumber => cases s <;> cases equal
      | zero s' => cases s <;> cases equal
      | infinity s' => cases s <;> cases s' <;> first | exact .inl ⟨nofun, rfl⟩ | cases equal
      | finite s' m e h => cases s <;> cases equal
    | finite s m e h =>
      cases v with
      | notANumber => cases s <;> cases equal
      | zero s' => cases s <;> cases equal
      | infinity s' => cases s <;> cases s' <;> cases equal
      | finite s' m' e' h' => exact .inl ⟨nofun, finite_eq_of_beq equal⟩
  · rintro (⟨number, rfl⟩ | ⟨⟨s, rfl⟩, ⟨s', rfl⟩⟩)
    · exact beq_of_number number
    · rfl

variable {x y : Float}

theorem beq_iff : (x == y) = true ↔
    x.toModel.unpack ≠ .notANumber ∧ x = y ∨ IsZero x.toModel.unpack ∧ IsZero y.toModel.unpack := by
  refine Iff.trans unpacked_beq_iff ?_
  have same : x.toModel.unpack = y.toModel.unpack ↔ x = y := ⟨eq_of_unpack_eq, fun h => h ▸ rfl⟩
  rw [same]

theorem beq_comm (x y : Float) : (x == y) = (y == x) := by
  rw [Bool.eq_iff_iff, beq_iff, beq_iff]
  constructor <;> rintro (⟨number, rfl⟩ | ⟨zero, zero'⟩)
  · exact .inl ⟨number, rfl⟩
  · exact .inr ⟨zero', zero⟩
  · exact .inl ⟨number, rfl⟩
  · exact .inr ⟨zero', zero⟩

theorem beq_trans {z : Float} (equal : (x == y) = true) (equal' : (y == z) = true) : (x == z) = true := by
  rw [beq_iff] at *
  rcases equal with ⟨number, rfl⟩ | ⟨zero, zero'⟩
  · exact equal'
  · rcases equal' with ⟨number, rfl⟩ | ⟨-, last⟩
    · exact .inr ⟨zero, zero'⟩
    · exact .inr ⟨zero, last⟩

/-- Equal doubles compare alike with every other one. -/
theorem beq_congr (equal : (x == y) = true) (z : Float) : (x == z) = (y == z) := by
  rw [Bool.eq_iff_iff]
  exact ⟨beq_trans (beq_comm x y ▸ equal), beq_trans equal⟩

theorem bne_congr (equal : (x == y) = true) (z : Float) : (x != z) = (y != z) :=
  congrArg (!·) (beq_congr equal z)

/-- A positive double equals itself and no other. -/
theorem beq_iff_eq_of_pos (positive : 0 < x) : (x == y) = true ↔ x = y := by
  constructor
  · intro equal
    rcases beq_iff.1 equal with ⟨-, same⟩ | ⟨⟨s, zero⟩, -⟩
    · exact same
    · have less : UnpackedFloat.lt (Float.toModel 0).unpack x.toModel.unpack = true :=
        of_decide_eq_true positive
      rw [zero] at less
      cases s <;> cases less
  · rintro rfl
    exact beq_self_of_pos positive

end ItemAppraisal.Decimal
