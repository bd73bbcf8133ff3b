import Reckoner.Proofs.Number.Notation

/-!
# Plainly shown numbers

A user is shown a number in the text that stands for it within an expression if and only if it is
zero, not finite, or neither too small nor too great for that (`display_eq_spell_iff`). Any other
number is shown in scientific notation, by a text with the same sign and the same significant digits
that denotes the same rational number.
-/

namespace Reckoner

/-- A text is scientific if it consists of a digit other than zero, further digits behind a point if
there are any, and an integer behind the mark of the exponent. -/
def IsScientific (s : Text) : Prop :=
  ∃ first fraction e,
    s = first :: ((if fraction = [] then [] else '.' :: fraction) ++ 'e' :: Decimal.integerText e)
      ∧ first ≠ '0' ∧ ∀ c ∈ first :: fraction, c.isDigit

/-- The scientific notation of a decimal other than zero is scientific. -/
theorem Decimal.isScientific_scientific {d : Decimal} (h : d.coefficient ≠ 0) :
  IsScientific d.scientific
  := by
  obtain ⟨first, fraction, hdigits, hdigit, hscientific⟩ := d.exists_scientific_eq
  refine ⟨first, fraction, _, hscientific, ?_, hdigit⟩
  rintro rfl
  apply head?_toDigits h
  change d.digits.head? = _
  rw [hdigits]
  rfl

namespace Number

variable {v : Number}

/-- The text of the sign of a number. -/
def signText (v : Number) : Text :=
  if v.isNegative then ['-'] else []

/-- The rational number that a text denotes exactly, if it is a decimal with an optional minus sign.
-/
def denoted? : Text → Option ℚ
  | '-' :: s => (Decimal.ofText? s).map fun d => -d.value
  | s => (Decimal.ofText? s).map Decimal.value

/-- The magnitude of a finite number as a rational number. -/
def size (v : Number) : ℚ :=
  magnitude v.pattern / 2 ^ 1074

/-! ### The plain range -/

theorem natPow_le_iff {a b x : ℕ} :
  Nat.pow a b ≤ x ↔ (a : ℚ) ^ b ≤ x
  := by
  rw [Nat.pow_eq, ← Nat.cast_pow, Nat.cast_le]

theorem lt_natPow_iff {a b x : ℕ} :
  x < Nat.pow a b ↔ (x : ℚ) < a ^ b
  := by
  rw [Nat.pow_eq, ← Nat.cast_pow, Nat.cast_lt]

/-- A fraction with a power of two below the line has a power of ten there if it is multiplied with
the same power of five. -/
theorem div_two_pow_eq (m n : ℕ) :
  (m : ℚ) / 2 ^ n = (m * Nat.pow 5 n : ℕ) / 10 ^ n
  := by
  have hten : (10 : ℚ) ^ n = 2 ^ n * 5 ^ n := by
    rw [← mul_pow]
    norm_num
  rw [hten, Nat.pow_eq, Nat.cast_mul, Nat.cast_pow, Nat.cast_ofNat, mul_div_mul_right]
  apply pow_ne_zero _ (by norm_num)

/-- A binary fraction is compared with a negative power of ten by a comparison of natural numbers.
-/
theorem one_div_ten_pow_le_iff {m k n l : ℕ} (h : n + k = l) :
  1 / 10 ^ k ≤ (m : ℚ) / 2 ^ l ↔ Nat.pow 10 n ≤ m * Nat.pow 5 l
  := by
  have hpow : (0 : ℚ) < 10 ^ l := by positivity
  have hone : (1 : ℚ) / 10 ^ k = 10 ^ n / 10 ^ l := by
    rw [← h, pow_add, ← div_div, div_self (by positivity)]
  rw [div_two_pow_eq, hone, div_le_div_iff_of_pos_right hpow, natPow_le_iff, Nat.cast_ofNat]

theorem lt_ten_pow_iff {m k n l : ℕ} (h : k + l = n) :
  (m : ℚ) / 2 ^ l < 10 ^ k ↔ m * Nat.pow 5 l < Nat.pow 10 n
  := by
  have hpow : (0 : ℚ) < 10 ^ l := by positivity
  rw [div_two_pow_eq, div_lt_iff₀ hpow, ← pow_add, h, lt_natPow_iff, Nat.cast_ofNat]

/-- The plain patterns are those of zero and of the magnitudes from 0.0001 on and below 10 to the
power 16. -/
theorem isPlain_iff :
  isPlain v.pattern ↔ v.pattern = 0 ∨ 1 / 10 ^ 4 ≤ v.size ∧ v.size < 10 ^ 16
  := by
  have hlow : 1070 + 4 = 1074 := rfl
  have hhigh : 16 + 1074 = 1090 := rfl
  rw [isPlain, Bool.or_eq_true, Bool.and_eq_true, decide_eq_true_eq, decide_eq_true_eq,
    decide_eq_true_eq, size]
  unfold Decimal.unitsPerUnit
  -- From here on only the differences of the exponents matter, and no power need be computed.
  revert hlow hhigh
  generalize 1070 = low, 1074 = places, 1090 = high
  intro hlow hhigh
  apply or_congr Iff.rfl
  apply and_congr
  · apply (one_div_ten_pow_le_iff hlow).symm
  · apply (lt_ten_pow_iff hhigh).symm

/-! ### Both texts -/

/-- In the plain range, and for numbers that are not finite, the two printers write the same text.
-/
theorem display_of_isPlain (h : v.IsFinite → isPlain v.pattern) :
  v.display = v.spell
  := by
  rw [spell_eq_write]
  apply write_congr
  intro hfinite
  rw [if_pos (h hfinite)]

/-- Outside the plain range a number is displayed in scientific notation. -/
theorem display_of_not_isPlain (hfinite : v.IsFinite) (h : ¬isPlain v.pattern) :
  v.display = v.signText ++ (Decimal.shortest v.pattern).scientific
  := by
  rw [display, write_of_isFinite hfinite, if_neg h, signText]

example :
  display 1e15 = "1000000000000000.0".toList ∧ display 5e-324 = "5e-324".toList
  := by decide +kernel

/-- A finite number is spelled as its sign and the positional notation of its shortest decimal. -/
theorem spell_eq_signText_append (h : v.IsFinite) :
  v.spell = v.signText ++ (Decimal.shortest v.pattern).positional
  := spell_of_isFinite h

/-- A number that is not shown plainly has digits other than zero. -/
theorem coefficient_shortest_ne_zero (hfinite : v.IsFinite) (h : ¬isPlain v.pattern) :
  (Decimal.shortest v.pattern).coefficient ≠ 0
  := by
  intro hzero
  apply h
  rw [← Decimal.pattern_shortest hfinite, Decimal.pattern, if_pos hzero]
  rfl

/-- A text with a digit in front denotes a decimal, and with a minus sign the negative one. -/
theorem denoted?_signText_append {s : Text} {d : Decimal} (hdigit : ∃ c t, s = c :: t ∧ c.isDigit)
    (h : Decimal.ofText? s = some d) :
  denoted? (v.signText ++ s) = some (if v.isNegative then -d.value else d.value)
  := by
  obtain ⟨c, t, rfl, hc⟩ := hdigit
  rw [signText]
  cases v.isNegative with
  | true =>
    change (Decimal.ofText? (c :: t)).map (fun d => -d.value) = _
    rw [h]
    rfl
  | false =>
    change denoted? (c :: t) = _
    unfold denoted?
    split
    · rename_i heq
      rw [(List.cons.inj heq).1] at hc
      cases hc
    · rw [h]
      rfl

/-- The text that is displayed for a number outside the plain range denotes the shortest decimal of
the number. -/
theorem denoted?_display (hfinite : v.IsFinite) (h : ¬isPlain v.pattern) :
  denoted? v.display = some (if v.isNegative then -(Decimal.shortest v.pattern).value
    else (Decimal.shortest v.pattern).value)
  := by
  rw [display_of_not_isPlain hfinite h]
  apply denoted?_signText_append (Decimal.exists_isDigit_scientific _)
    (Decimal.ofText?_scientific _)

/-- The spelling of a finite number denotes the shortest decimal of the number. -/
theorem denoted?_spell (hfinite : v.IsFinite) :
  denoted? v.spell = some (if v.isNegative then -(Decimal.shortest v.pattern).value
    else (Decimal.shortest v.pattern).value)
  := by
  rw [spell_eq_signText_append hfinite, ← Decimal.value_placed]
  apply denoted?_signText_append (Decimal.exists_isDigit_positional _)
    (Decimal.ofText?_positional _)

theorem significantDigits_signText_append (v : Number) (s : Text) :
  significantDigits (v.signText ++ s) = significantDigits s
  := by
  rw [signText]
  split
  · apply significantDigits_minus
  · rfl

/-- Outside the plain range the two printers write the same significant digits. -/
theorem significantDigits_display (hfinite : v.IsFinite) (h : ¬isPlain v.pattern) :
  significantDigits v.display = significantDigits v.spell
  := by
  have hcoefficient := coefficient_shortest_ne_zero hfinite h
  rw [display_of_not_isPlain hfinite h, spell_eq_signText_append hfinite,
    significantDigits_signText_append, significantDigits_signText_append,
    Decimal.significantDigits_scientific hcoefficient,
    Decimal.significantDigits_positional hcoefficient]

/-- A text in scientific notation is not that of a number in positional notation. -/
theorem display_ne_spell (hfinite : v.IsFinite) (h : ¬isPlain v.pattern) :
  v.display ≠ v.spell
  := by
  have hmark : 'e' ∈ v.display := by
    obtain ⟨first, fraction, -, -, hscientific⟩ := (Decimal.shortest v.pattern).exists_scientific_eq
    rw [display_of_not_isPlain hfinite h, hscientific]
    simp
  intro heq
  rw [heq] at hmark
  rcases eq_minus_or_isNumeric_of_mem_spell hfinite hmark with hc | hc
  · cases hc
  · cases hc

/-- The two printers write the same text for numbers in the plain range and for those that are not
finite, and only for these. -/
theorem display_eq_spell_iff_isPlain :
  v.display = v.spell ↔ (v.IsFinite → isPlain v.pattern)
  := by
  constructor
  · intro heq hfinite
    by_contra hnot
    apply display_ne_spell hfinite hnot heq
  · apply display_of_isPlain

/-- What a user is shown is the text that stands for the number within an expression if and only if
the number is a zero of either sign, not finite, or of a magnitude from 0.0001 on and below 10 to
the power 16. Any other number is shown in scientific notation. The two texts then have the same
sign and the same significant digits, and they denote the same rational number. -/
theorem display_eq_spell_iff (v : Number) :
  (v.display = v.spell ↔ v == 0.0 ∨ ¬v.IsFinite ∨ 1 / 10 ^ 4 ≤ v.size ∧ v.size < 10 ^ 16)
    ∧ (v.IsFinite → ¬(v == 0.0) → ¬(1 / 10 ^ 4 ≤ v.size ∧ v.size < 10 ^ 16) →
        (∃ s s', v.display = v.signText ++ s ∧ v.spell = v.signText ++ s' ∧ IsScientific s
          ∧ ∀ c ∈ s', isNumeric c)
        ∧ significantDigits v.display = significantDigits v.spell
        ∧ ∃ q, denoted? v.display = some q ∧ denoted? v.spell = some q)
  := by
  have hplain := isPlain_iff (v := v)
  rw [← beq_zero_iff] at hplain
  constructor
  · rw [display_eq_spell_iff_isPlain, hplain, imp_iff_not_or, or_left_comm]
  · intro hfinite hzero hrange
    have hnot : ¬isPlain v.pattern := by
      rw [hplain]
      apply not_or_intro hzero hrange
    refine ⟨⟨_, _, display_of_not_isPlain hfinite hnot, spell_eq_signText_append hfinite, ?_, ?_⟩,
      significantDigits_display hfinite hnot, _, denoted?_display hfinite hnot,
      denoted?_spell hfinite⟩
    · apply Decimal.isScientific_scientific (coefficient_shortest_ne_zero hfinite hnot)
    · intro c hc
      apply isNumeric_of_mem_positional hc

/-- The number 10 to the power 16 has one significant digit, and the number before it is shown
without an exponent. -/
theorem display_eq_spell_iff_ten_pow :
  (1 / 10 ^ 4 ≤ size 9999999999999998 ∧ size 9999999999999998 < 10 ^ 16)
    ∧ (∃ s s', display (-1e16) = '-' :: s ∧ spell (-1e16) = '-' :: s' ∧ IsScientific s)
    ∧ significantDigits "-1e16".toList = significantDigits "-10000000000000000.0".toList
    ∧ ∃ q, denoted? "-1e16".toList = some q ∧ denoted? "-10000000000000000.0".toList = some q
  := by
  have hdisplay : display (-1e16) = "-1e16".toList := by decide +kernel
  have hspell : spell (-1e16) = "-10000000000000000.0".toList := by decide +kernel
  have hplain := (display_eq_spell_iff 9999999999999998).1.mp (by decide +kernel)
  have hnot := (display_eq_spell_iff (-1e16)).1.not.mp (by decide +kernel)
  rw [not_or, not_or] at hnot
  obtain ⟨⟨s, s', hs, hs', hscientific, -⟩, hdigits, hdenoted⟩ :=
    (display_eq_spell_iff (-1e16)).2 (not_not.mp hnot.2.1) hnot.1 hnot.2.2
  refine ⟨?_, ⟨s, s', hs, hs', hscientific⟩, ?_, ?_⟩
  · apply (hplain.resolve_left (by decide +kernel)).resolve_left (by decide +kernel)
  · rw [← hdisplay, ← hspell]
    apply hdigits
  · rw [← hdisplay, ← hspell]
    apply hdenoted

end Number

end Reckoner
