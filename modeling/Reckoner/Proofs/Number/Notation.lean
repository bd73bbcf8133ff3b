import Mathlib
import Reckoner.Proofs.Number.Display

/-!
# The two notations of a decimal

Positional and scientific notation have the digits of the same coefficient, and only zeros in front
of them and behind them differ (`significantDigits_positional`, `significantDigits_scientific`). As
rational numbers, which are not rounded, both denote the decimal that is written (`value_placed`).
-/

namespace Reckoner

/-! ### Significant digits -/

/-- The digits of a written number in front of an exponent, without the zeros at the start and at
the end. -/
def significantDigits (s : Text) : Text :=
  (((s.takeWhile (· != 'e')).filter Char.isDigit).dropWhile (· == '0')).rdropWhile (· == '0')

@[simp]
theorem significantDigits_minus (s : Text) :
  significantDigits ('-' :: s) = significantDigits s
  := by
  simp [significantDigits]

/-- Zeros on both sides of digits of which the first is another one do not count. -/
theorem significantDigits_of_zeros {s ds : Text} {m n : Nat}
    (hs : (s.takeWhile (· != 'e')).filter Char.isDigit
      = List.replicate m '0' ++ ds ++ List.replicate n '0')
    (hne : ds ≠ []) (hfirst : ds.head? ≠ some '0') :
  significantDigits s = ds.rdropWhile (· == '0')
  := by
  obtain ⟨first, rest, rfl⟩ := List.exists_cons_of_ne_nil hne
  have hzero : ∀ k, ∀ c ∈ List.replicate k '0', c == '0' := by
    intro k c hc
    rw [List.eq_of_mem_replicate hc]
    rfl
  have hnonzero : ¬first == '0' := by
    simpa using hfirst
  rw [significantDigits, hs, List.append_assoc, List.dropWhile_append_of_pos (hzero m),
    List.cons_append, List.dropWhile_cons_of_neg (p := (· == '0')) hnonzero, ← List.cons_append,
    List.rdropWhile, List.reverse_append, List.reverse_replicate,
    List.dropWhile_append_of_pos (hzero n), List.rdropWhile]

/-- The first digit of a natural number other than zero is not zero. -/
theorem head?_toDigits {n : Nat} (h : n ≠ 0) :
  (Nat.toDigits 10 n).head? ≠ some '0'
  := by
  induction n using Nat.strongRecOn with
  | ind n ih =>
    by_cases hn : n < 10
    · rw [Nat.toDigits_of_lt_base hn]
      interval_cases n
      all_goals simp_all [Nat.digitChar]
    · have hfirst := ih (n / 10) (by omega) (by omega)
      obtain ⟨first, rest, hdigits⟩ := List.exists_cons_of_ne_nil
        (Nat.toDigits_ne_nil (b := 10) (n := n / 10))
      rw [hdigits] at hfirst
      rw [Nat.toDigits_of_base_le (by decide) (Nat.le_of_not_lt hn), hdigits]
      apply hfirst

namespace Decimal

variable {d : Decimal}

theorem exponentMark_not_mem {s : Text} (h : ∀ c ∈ s, Number.isNumeric c) :
  ∀ c ∈ s, c != 'e'
  := by
  intro c hc
  rw [bne_iff_ne]
  rintro rfl
  cases h 'e' hc

theorem filter_isDigit_eq_self {s : Text} (h : ∀ c ∈ s, c.isDigit) :
  s.filter Char.isDigit = s
  := List.filter_eq_self.mpr h

/-- The digits on the two sides of the point are those of the coefficient with zeros around them. -/
theorem exists_isPlaced_digits (d : Decimal) :
  ∃ whole fraction m n, IsPlaced d whole fraction
    ∧ whole ++ fraction = List.replicate m '0' ++ d.digits ++ List.replicate n '0'
  := by
  obtain ⟨c, e⟩ := d
  cases e with
  | ofNat e =>
    refine ⟨_, _, 0, e + 1, isPlaced_ofNat c e, ?_⟩
    rw [List.append_assoc, List.replicate_succ', List.replicate_zero, List.nil_append]
  | negSucc e =>
    by_cases h : (digits ⟨c, .negSucc e⟩).length ≤ e + 1
    · refine ⟨_, _, e + 1 - (digits ⟨c, .negSucc e⟩).length + 1, 0, isPlaced_below_one h, ?_⟩
      rw [List.replicate_succ, List.replicate_zero, List.append_nil]
      rfl
    · refine ⟨_, _, 0, 0, isPlaced_from_one h, ?_⟩
      rw [List.take_append_drop, List.replicate_zero, List.nil_append, List.append_nil]

/-- The significant digits of positional notation are those of the coefficient. -/
theorem significantDigits_positional (h : d.coefficient ≠ 0) :
  significantDigits d.positional = d.digits.rdropWhile (· == '0')
  := by
  obtain ⟨whole, fraction, m, n, hplaced, hdigits⟩ := d.exists_isPlaced_digits
  have hmantissa : (d.positional.takeWhile (· != 'e')).filter Char.isDigit
      = List.replicate m '0' ++ d.digits ++ List.replicate n '0' := by
    rw [List.takeWhile_eq_self_iff.mpr
      (exponentMark_not_mem fun c hc => Number.isNumeric_of_mem_positional hc),
      hplaced.positional_eq, List.filter_append, List.filter_cons_of_neg (by decide),
      filter_isDigit_eq_self hplaced.isDigit_whole,
      filter_isDigit_eq_self hplaced.isDigit_fraction]
    apply hdigits
  apply significantDigits_of_zeros hmantissa d.digits_ne_nil (head?_toDigits h)

/-- Digits with a point behind the first are numeric, and without the point they are these digits.
-/
theorem filter_isDigit_pointed {first : Char} {fraction : Text}
    (h : ∀ c ∈ first :: fraction, c.isDigit) :
  (∀ c ∈ first :: (if fraction = [] then [] else '.' :: fraction), Number.isNumeric c)
    ∧ (first :: (if fraction = [] then [] else '.' :: fraction)).filter Char.isDigit
      = first :: fraction
  := by
  have hall := filter_isDigit_eq_self h
  rw [List.forall_mem_cons] at h
  cases fraction with
  | nil =>
    rw [if_pos rfl, List.forall_mem_singleton]
    exact ⟨isNumeric_of_isDigit h.1, hall⟩
  | cons second rest =>
    rw [if_neg (List.cons_ne_nil second rest), List.forall_mem_cons, List.forall_mem_cons]
    refine ⟨⟨isNumeric_of_isDigit h.1, rfl, fun c hc => isNumeric_of_isDigit (h.2 c hc)⟩, ?_⟩
    rw [List.filter_cons_of_pos h.1, List.filter_cons_of_neg (by decide),
      ← List.filter_cons_of_pos h.1]
    apply hall

/-- The significant digits of scientific notation are those of the coefficient. -/
theorem significantDigits_scientific (h : d.coefficient ≠ 0) :
  significantDigits d.scientific = d.digits.rdropWhile (· == '0')
  := by
  obtain ⟨first, fraction, hdigits, hdigit, hscientific⟩ := d.exists_scientific_eq
  obtain ⟨hnumeric, hfilter⟩ := filter_isDigit_pointed hdigit
  have hmantissa : (d.scientific.takeWhile (· != 'e')).filter Char.isDigit
      = List.replicate 0 '0' ++ d.digits ++ List.replicate 0 '0' := by
    rw [hscientific, ← List.cons_append,
      List.takeWhile_append_of_pos (exponentMark_not_mem hnumeric),
      List.takeWhile_cons_of_neg (by decide), List.append_nil, hfilter, hdigits]
    simp
  apply significantDigits_of_zeros hmantissa d.digits_ne_nil (head?_toDigits h)

/-! ### Values -/

/-- The decimal as a rational number. -/
def value (d : Decimal) : ℚ :=
  d.coefficient * 10 ^ d.exponent

/-- What is read from positional notation is the same rational number. -/
theorem value_placed (d : Decimal) :
  d.placed.value = d.value
  := by
  obtain ⟨c, e⟩ := d
  cases e with
  | ofNat e =>
    calc
      ((c * Nat.pow 10 (e + 1) : ℕ) : ℚ) * 10 ^ (-1 : ℤ)
        = c * (10 ^ e * 10) * 10⁻¹ := by
          rw [Nat.pow_eq, zpow_neg_one]
          push_cast
          rw [pow_succ]
      _ = c * 10 ^ e := by
          rw [← mul_assoc, mul_inv_cancel_right₀ (by norm_num)]
      _ = c * 10 ^ (Int.ofNat e) := by
          rw [Int.ofNat_eq_natCast, zpow_natCast]
  | negSucc e => rfl

end Decimal

end Reckoner
