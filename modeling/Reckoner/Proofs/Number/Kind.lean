import Reckoner.Proofs.Number.Spelling

/-!
# Kinds of numbers

The pattern of a number tells its kind: it is finite below the pattern of infinity, infinite at it
and no number above it. These are the kinds that the fields of the binary format determine, its
exponent and its mantissa, into which a pattern is divided at its lower 52 bits.
-/

open Float.Model

namespace Reckoner

namespace Number

variable {v : Number}

/-! ### The fields of the format -/

/-- The exponent field of a number. -/
abbrev exponentField (v : Number) : BitVec 11 :=
  @UnpackedFloat.unpackExponent Format.binary64 v.toBits.toBitVec

/-- The mantissa field of a number, without the implicit bit. -/
abbrev mantissaField (v : Number) : BitVec 52 :=
  @UnpackedFloat.unpackMantissa Format.binary64 v.toBits.toBitVec

/-- The exponent field is the part of the pattern above the lower 52 bits. -/
theorem toNat_exponentField (v : Number) :
  v.exponentField.toNat = v.pattern / patternsPerPower
  := by
  rw [exponentField, UnpackedFloat.unpackExponent_def, BitVec.extractLsb'_toNat,
    Nat.shiftRight_eq_div_pow, pattern, signBit, patternsPerPower]
  change v.toBits.toNat / 2 ^ 52 % 2 ^ 11 = _
  omega

/-- The mantissa field consists of the lower 52 bits of the pattern. -/
theorem toNat_mantissaField (v : Number) :
  v.mantissaField.toNat = v.pattern % patternsPerPower
  := by
  rw [mantissaField, UnpackedFloat.unpackMantissa_def, BitVec.extractLsb'_toNat,
    Nat.shiftRight_zero, pattern, signBit, patternsPerPower]
  change v.toBits.toNat % 2 ^ 52 = _
  omega

theorem pattern_lt (v : Number) :
  v.pattern < signBit
  := Nat.mod_lt _ (by decide)

/-- The bits of the exponent are all set from the pattern of infinity on. -/
theorem exponentField_eq_iff :
  v.exponentField = -1#11 ↔ infinity ≤ v.pattern
  := by
  have hlt := v.pattern_lt
  rw [BitVec.toNat_eq, toNat_exponentField]
  change v.pattern / patternsPerPower = 2047 ↔ _
  rw [signBit] at hlt
  rw [infinity, patternsPerPower]
  omega

/-- From the pattern of infinity on, the mantissa is zero only at infinity itself. -/
theorem mantissaField_eq_iff (h : infinity ≤ v.pattern) :
  v.mantissaField = 0#52 ↔ v.pattern = infinity
  := by
  have hlt := v.pattern_lt
  rw [BitVec.toNat_eq, toNat_mantissaField]
  change v.pattern % patternsPerPower = 0 ↔ _
  rw [signBit] at hlt
  rw [infinity] at h ⊢
  rw [patternsPerPower]
  omega

/-! ### Kinds -/

/-- Above the pattern of infinity a number is unpacked as no number. -/
theorem unpack_of_infinity_lt (h : infinity < v.pattern) :
  v.toModel.unpack = .notANumber
  := by
  change UnpackedFloat.unpack Format.binary64 v.toBits.toBitVec = _
  have hexponent := exponentField_eq_iff.mpr (Nat.le_of_lt h)
  have hmantissa := (mantissaField_eq_iff (Nat.le_of_lt h)).not.mpr (Nat.ne_of_gt h)
  simp only [UnpackedFloat.unpack]
  rw [if_pos hexponent, if_neg hmantissa]

/-- At the pattern of infinity a number is unpacked as an infinite one. -/
theorem exists_unpack_of_eq_infinity (h : v.pattern = infinity) :
  ∃ s, v.toModel.unpack = .infinity s
  := by
  change ∃ s, UnpackedFloat.unpack Format.binary64 v.toBits.toBitVec = _
  have hexponent := exponentField_eq_iff.mpr (Nat.le_of_eq h.symm)
  have hmantissa := (mantissaField_eq_iff (Nat.le_of_eq h.symm)).mpr h
  simp only [UnpackedFloat.unpack]
  rw [if_pos hexponent, if_pos hmantissa]
  exact ⟨_, rfl⟩

/-- Below the pattern of infinity a number is unpacked as a finite one. -/
theorem unpack_of_isFinite (h : v.IsFinite) :
  v.toModel.unpack.isFinite ∧ v.toModel.unpack.isInf = false ∧ v.toModel.unpack.isNaN = false
  := by
  change (UnpackedFloat.unpack Format.binary64 v.toBits.toBitVec).isFinite
    ∧ (UnpackedFloat.unpack Format.binary64 v.toBits.toBitVec).isInf = false
    ∧ (UnpackedFloat.unpack Format.binary64 v.toBits.toBitVec).isNaN = false
  have hexponent := exponentField_eq_iff.not.mpr (Nat.not_le.mpr h)
  simp only [UnpackedFloat.unpack]
  rw [if_neg hexponent]
  split
  · split
    · exact ⟨rfl, rfl, rfl⟩
    · exact ⟨rfl, rfl, rfl⟩
  · exact ⟨rfl, rfl, rfl⟩

/-- A number is finite if and only if its pattern is below that of infinity. -/
theorem isFinite_iff :
  v.isFinite ↔ v.IsFinite
  := by
  change v.toModel.unpack.isFinite ↔ v.pattern < infinity
  rcases Nat.lt_trichotomy v.pattern infinity with h | h | h
  · rw [iff_true_right h]
    apply (unpack_of_isFinite h).1
  · obtain ⟨s, hs⟩ := exists_unpack_of_eq_infinity h
    rw [hs, iff_false_right (Nat.not_lt.mpr (Nat.le_of_eq h.symm))]
    apply Bool.false_ne_true
  · rw [unpack_of_infinity_lt h, iff_false_right (Nat.lt_asymm h)]
    apply Bool.false_ne_true

/-- A number is infinite if and only if its pattern is that of infinity. -/
theorem isInf_iff :
  v.isInf ↔ v.pattern = infinity
  := by
  change v.toModel.unpack.isInf ↔ v.pattern = infinity
  rcases Nat.lt_trichotomy v.pattern infinity with h | h | h
  · rw [(unpack_of_isFinite h).2.1, iff_false_right (Nat.ne_of_lt h)]
    apply Bool.false_ne_true
  · obtain ⟨s, hs⟩ := exists_unpack_of_eq_infinity h
    rw [hs, iff_true_right h]
    rfl
  · rw [unpack_of_infinity_lt h, iff_false_right (Nat.ne_of_gt h)]
    apply Bool.false_ne_true

/-- What is no number has a pattern above that of infinity. -/
theorem isNaN_iff :
  v.isNaN ↔ infinity < v.pattern
  := by
  change v.toModel.unpack.isNaN ↔ infinity < v.pattern
  rcases Nat.lt_trichotomy v.pattern infinity with h | h | h
  · rw [(unpack_of_isFinite h).2.2, iff_false_right (Nat.lt_asymm h)]
    apply Bool.false_ne_true
  · obtain ⟨s, hs⟩ := exists_unpack_of_eq_infinity h
    rw [hs, iff_false_right (Nat.not_lt.mpr (Nat.le_of_eq h))]
    apply Bool.false_ne_true
  · rw [unpack_of_infinity_lt h, iff_true_right h]
    rfl

/-! ### Equal numbers -/

/-- The numbers that are equal to zero are those of which no bit but the sign is set. -/
theorem beq_zero_iff :
  v == 0.0 ↔ v.pattern = 0
  := by
  constructor
  · intro h
    obtain ⟨-, -, rfl | ⟨rfl, -⟩ | ⟨rfl, -⟩⟩ := Float.beq_iff_ne_nan_and_eq.mp h
    all_goals decide
  · intro h
    rw [← ofPattern_pattern v, h]
    cases v.isNegative
    all_goals decide

/-- Numbers that are equal are the same unless they are zeros of different signs. -/
theorem eq_of_beq {w : Number} (h : v == w) (hzero : v == 0.0 → v.isNegative = w.isNegative) :
  v = w
  := by
  obtain ⟨-, -, heq | ⟨rfl, rfl⟩ | ⟨rfl, rfl⟩⟩ := Float.beq_iff_ne_nan_and_eq.mp h
  · apply heq
  · have hsign := hzero (by decide)
    revert hsign
    decide
  · have hsign := hzero (by decide)
    revert hsign
    decide

end Number

end Reckoner
