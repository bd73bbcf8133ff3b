import Reckoner.Proofs.Expression.Reduction
import Reckoner.Proofs.Number.Kind

/-!
# Reducing the text of a number

The text that stands for a number in an expression either reduces to this number or to an error.
Only finite numbers without a sign reduce. In front of others stands a minus sign, so that the
operand on its left is empty, or they are written as a word, which is not a number to a reduction.
-/

namespace Reckoner

/-! ### Atomic texts -/

/-- A text is atomic if it contains neither symbols of operators nor parentheses. -/
def IsAtomic (s : Text) : Prop :=
  ∀ c ∈ s, Operator.ofChar? c = none ∧ opens c = 0

/-- A text of numeric characters is atomic. -/
theorem isAtomic_of_isNumeric {s : Text} (h : ∀ c ∈ s, Number.isNumeric c) :
  IsAtomic s
  := fun c hc => ⟨ofChar?_of_isNumeric (h c hc), opens_of_isNumeric (h c hc)⟩

theorem isAtomic_of_isLetter {s : Text} (h : ∀ c ∈ s, isLetter c) :
  IsAtomic s
  := fun c hc => ⟨ofChar?_of_isLetter (h c hc), opens_of_isLetter (h c hc)⟩

namespace IsAtomic

variable {s : Text}

theorem unclosed_eq_zero (h : IsAtomic s) :
  unclosed s = 0
  := Reckoner.unclosed_eq_zero fun c hc => (h c hc).2

theorem split?_eq_none (h : IsAtomic s) (p : Precedence) :
  split? p s = none
  := split?_eq_none_of_ofChar? fun c hc => (h c hc).1

theorem enclosed?_eq_none (h : IsAtomic s) :
  enclosed? s = none
  := by
  unfold enclosed?
  split
  · cases (h '(' List.mem_cons_self).2
  · rfl

/-- An atomic text has to be a number. -/
theorem reduce_eq (h : IsAtomic s) :
  reduce s = literal s
  := by
  apply reduceWithin_of_literal
  · exact topSplit?_eq_none_iff.mpr ⟨h.split?_eq_none _, h.split?_eq_none _⟩
  · apply h.enclosed?_eq_none

/-- A sign in front of an atomic text is an operator without a left operand. -/
theorem reduce_cons_symbol (h : IsAtomic s) {o : Operator} (ho : o.precedence = .additive) :
  reduce (o.symbol :: s) = .error (.malformed [])
  := by
  have hsplit : topSplit? (o.symbol :: s) = some ⟨[], o, s⟩ :=
    topSplit?_of_additive [] ho h.unclosed_eq_zero (h.split?_eq_none _)
  -- The empty left operand fails before the right one is looked at.
  apply Eq.trans (reduceWithin_of_topSplit? hsplit)
  apply bind_eq_error_iff.mpr
  left
  rfl

end IsAtomic

/-- A text with a letter in it is no literal. -/
theorem literal_of_isLetter {s : Text} {c : Char} (hc : c ∈ s) (hletter : isLetter c) :
  literal s = .error (.malformed s)
  := by
  have hall : s.all Number.isNumeric = false := by
    rw [List.all_eq_false]
    use c, hc
    rw [isNumeric_of_isLetter hletter]
    apply Bool.false_ne_true
  rw [literal, Number.ofLiteral?, hall]
  rfl

/-- A word is not a number. -/
theorem IsName.reduce_eq {s : Text} (h : IsName s) :
  reduce s = .error (.malformed s)
  := by
  obtain ⟨c, hc⟩ := List.exists_mem_of_ne_nil s h.1
  rw [(isAtomic_of_isLetter h.2).reduce_eq]
  apply literal_of_isLetter hc (h.2 c hc)

/-! ### Texts of numbers -/

namespace Number

variable {v : Number}

theorem isName_inf :
  IsName "inf".toList
  := by
  decide +kernel

theorem isName_NaN :
  IsName "NaN".toList
  := by
  decide +kernel

/-- An infinite number is written as a word with a sign. -/
theorem spell_of_isInf (h : v.pattern = infinity) :
  v.spell = (if v.isNegative then ['-'] else []) ++ "inf".toList
  := by
  rw [spell_eq_write, write_of_isInf h]

/-- What is no number is written as a word without a sign. -/
theorem spell_of_isNaN (h : infinity < v.pattern) :
  v.spell = "NaN".toList
  := by
  rw [spell_eq_write, write_of_isNaN h]

/-- A number, finite or not, is written as an atomic text, with a minus sign in front of it if the
number is negative. -/
theorem exists_spell (h : ¬infinity < v.pattern) :
  ∃ s, IsAtomic s ∧ v.spell = (if v.isNegative then ['-'] else []) ++ s
  := by
  rcases Nat.lt_or_eq_of_le (Nat.not_lt.mp h) with hfinite | hinf
  · use (Decimal.shortest v.pattern).positional
    use isAtomic_of_isNumeric fun c => isNumeric_of_mem_positional
    apply spell_of_isFinite hfinite
  · use "inf".toList, isAtomic_of_isLetter isName_inf.2
    apply spell_of_isInf hinf

end Number

open Number in
/-- What stands for a finite number is a minus sign, if the sign bit is set, and digits on both
sides of a point. Without the sign it reduces to the number. A negative number, which may be
infinite, is malformed because nothing is in front of its sign, and the words for infinity and for
what is no number are malformed themselves. -/
theorem reduce_spell (v : Number) :
  (v.isFinite → ∃ whole fraction,
      v.spell = (if v.isNegative then ['-'] else []) ++ whole ++ '.' :: fraction
        ∧ whole ≠ [] ∧ fraction ≠ [] ∧ (∀ c ∈ whole, c.isDigit) ∧ ∀ c ∈ fraction, c.isDigit)
    ∧ (v.isFinite → v.isNegative = false → reduce v.spell = .ok v)
    ∧ (v.isNegative → v.isNaN = false → reduce v.spell = .error (.malformed []))
    ∧ (v.isInf → v.isNegative = false → reduce v.spell = .error (.malformed "inf".toList))
    ∧ (v.isNaN → reduce v.spell = .error (.malformed "NaN".toList))
  := by
  refine ⟨?_, ?_, ?_, ?_, ?_⟩
  · intro hfinite
    obtain ⟨whole, fraction, h⟩ := (Decimal.shortest v.pattern).exists_isPlaced
    use whole, fraction
    rw [spell_of_isFinite (isFinite_iff.mp hfinite), h.positional_eq, List.append_assoc]
    exact ⟨rfl, h.whole_ne_nil, h.fraction_ne_nil, h.isDigit_whole, h.isDigit_fraction⟩
  · intro hfinite hsign
    have hunsigned : v.IsUnsigned := ⟨isFinite_iff.mp hfinite, hsign⟩
    rw [(isAtomic_of_isNumeric fun c => isNumeric_of_mem_spell hunsigned).reduce_eq,
      literal_spell hunsigned]
  · intro hsign hnumber
    have hle : ¬infinity < v.pattern := by
      rw [← isNaN_iff, hnumber]
      apply Bool.false_ne_true
    obtain ⟨s, hs, hspell⟩ := exists_spell hle
    rw [hspell, if_pos hsign]
    apply hs.reduce_cons_symbol (o := .sub) rfl
  · intro hinf hsign
    rw [spell_of_isInf (isInf_iff.mp hinf), hsign]
    apply isName_inf.reduce_eq
  · intro hnan
    rw [spell_of_isNaN (isNaN_iff.mp hnan)]
    apply isName_NaN.reduce_eq

open Number in
/-- The smallest positive number, the negative zero, both infinities and what is no number. -/
theorem reduce_spell_smallest :
  reduce (spell 5e-324) = .ok 5e-324
    ∧ reduce (spell (-0.0)) = .error (.malformed [])
    ∧ reduce (spell (ofPattern true infinity)) = .error (.malformed [])
    ∧ reduce (spell (ofPattern false infinity)) = .error (.malformed "inf".toList)
    ∧ reduce (spell (ofPattern false undefined)) = .error (.malformed "NaN".toList)
  := by
  refine ⟨?_, ?_, ?_, ?_, ?_⟩
  · apply (reduce_spell 5e-324).2.1 (by decide +kernel) (by decide +kernel)
  · apply (reduce_spell (-0.0)).2.2.1 (by decide +kernel) (by decide +kernel)
  · apply (reduce_spell (ofPattern true infinity)).2.2.1 (by decide +kernel) (by decide +kernel)
  · apply (reduce_spell (ofPattern false infinity)).2.2.2.1 (by decide +kernel) (by decide +kernel)
  · apply (reduce_spell (ofPattern false undefined)).2.2.2.2 (by decide +kernel)

end Reckoner
