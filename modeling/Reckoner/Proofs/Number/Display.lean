import Reckoner.Proofs.Number.Kind

/-!
# Reading back what is shown

`Number.write` writes the finite numbers by a layout of their patterns and the others as words. If
a layout writes each pattern as digits that are read as a decimal of this pattern
(`Number.IsFaithful`) then every number is read back as it was, with its sign
(`Number.ofText?_write`). The layout of `Number.display` is of this kind, both in positional and in
scientific notation, so that different numbers are shown differently.
-/

namespace Reckoner

/-! ### Scientific notation -/

namespace Decimal

/-- The digits of a natural number are read as this number. -/
theorem natural?_toDigits (n : Nat) :
  natural? (Nat.toDigits 10 n) = some n
  := by
  have hdigit : (Nat.toDigits 10 n).all Char.isDigit := by
    rw [List.all_eq_true]
    intro c hc
    apply Nat.isDigit_of_mem_toDigits (Nat.succ_pos 9) (Nat.le_refl 10) hc
  rw [natural?, if_pos ⟨Nat.toDigits_ne_nil, hdigit⟩, Nat.ofDigitChars_ten_toDigits]

/-- The text of an integer is read as this integer. -/
theorem integer?_integerText (e : Int) :
  integer? (integerText e) = some e
  := by
  cases e with
  | ofNat n =>
    have hcons : ∀ (c : Char) (s : Text), c.isDigit = false → Nat.toDigits 10 n ≠ c :: s := by
      intro c s hc heq
      have hmem : c ∈ Nat.toDigits 10 n := heq ▸ List.mem_cons_self
      rw [Nat.isDigit_of_mem_toDigits (Nat.succ_pos 9) (Nat.le_refl 10) hmem] at hc
      cases hc
    rw [integerText]
    unfold integer?
    split
    · rename_i s heq
      cases hcons '-' s rfl heq
    · rename_i s heq
      cases hcons '+' s rfl heq
    · rw [natural?_toDigits]
      rfl
  | negSucc n =>
    rw [integerText, integer?, natural?_toDigits]
    rfl

/-- Digits in front of an exponent are read as a whole number that is scaled by it. -/
theorem ofText?_exponent {whole s : Text} (hne : whole ≠ []) (h : ∀ c ∈ whole, c.isDigit) :
  ofText? (whole ++ 'e' :: s)
    = (integer? s).map fun e => ⟨Nat.ofDigitChars 10 whole 0, e⟩
  := by
  have hmark : ¬('e' : Char).isDigit := by decide
  have htake : (whole ++ 'e' :: s).takeWhile Char.isDigit = whole := by
    rw [List.takeWhile_append_of_pos h, List.takeWhile_cons_of_neg hmark, List.append_nil]
  have hdrop : (whole ++ 'e' :: s).dropWhile Char.isDigit = 'e' :: s := by
    rw [List.dropWhile_append_of_pos h, List.dropWhile_cons_of_neg hmark]
  simp [ofText?, htake, hdrop, splitFraction, hne, exponent?]

/-- Digits around a point in front of an exponent have a place for each digit behind the point. -/
theorem ofText?_point_exponent {whole fraction s : Text} (hne : whole ++ fraction ≠ [])
    (hwhole : ∀ c ∈ whole, c.isDigit) (hfraction : ∀ c ∈ fraction, c.isDigit) :
  ofText? (whole ++ '.' :: (fraction ++ 'e' :: s))
    = (integer? s).map fun e =>
      ⟨Nat.ofDigitChars 10 (whole ++ fraction) 0, e - (fraction.length : Int)⟩
  := by
  have hpoint : ¬('.' : Char).isDigit := by decide
  have hmark : ¬('e' : Char).isDigit := by decide
  have htake : (whole ++ '.' :: (fraction ++ 'e' :: s)).takeWhile Char.isDigit = whole := by
    rw [List.takeWhile_append_of_pos hwhole, List.takeWhile_cons_of_neg hpoint, List.append_nil]
  have hdrop : (whole ++ '.' :: (fraction ++ 'e' :: s)).dropWhile Char.isDigit
      = '.' :: (fraction ++ 'e' :: s) := by
    rw [List.dropWhile_append_of_pos hwhole, List.dropWhile_cons_of_neg hpoint]
  have htake' : (fraction ++ 'e' :: s).takeWhile Char.isDigit = fraction := by
    rw [List.takeWhile_append_of_pos hfraction, List.takeWhile_cons_of_neg hmark, List.append_nil]
  have hdrop' : (fraction ++ 'e' :: s).dropWhile Char.isDigit = 'e' :: s := by
    rw [List.dropWhile_append_of_pos hfraction, List.dropWhile_cons_of_neg hmark]
  simp only [ofText?, htake, hdrop, splitFraction, htake', hdrop', if_neg hne, exponent?,
    true_or, if_true]

example :
  ofText? ".25e1".toList = some ⟨25, -1⟩
  := by decide

/-- Scientific notation has the digits of the coefficient, one of them in front of the point. -/
theorem exists_scientific_eq (d : Decimal) :
  ∃ first fraction, d.digits = first :: fraction ∧ (∀ c ∈ first :: fraction, c.isDigit)
    ∧ d.scientific = first :: ((if fraction = [] then [] else '.' :: fraction)
        ++ 'e' :: integerText (d.exponent + fraction.length))
  := by
  obtain ⟨first, fraction, hdigits⟩ := List.exists_cons_of_ne_nil d.digits_ne_nil
  refine ⟨first, fraction, hdigits, ?_, ?_⟩
  · intro c hc
    apply isDigit_of_mem_digits (hdigits ▸ hc)
  · rw [scientific, hdigits]
    simp

/-- Scientific notation is read as the decimal that it is the notation of. -/
theorem ofText?_scientific (d : Decimal) :
  ofText? d.scientific = some d
  := by
  obtain ⟨first, fraction, hdigits, hdigit, hscientific⟩ := d.exists_scientific_eq
  rw [List.forall_mem_cons] at hdigit
  have hfirst : ∀ c ∈ [first], c.isDigit := by
    rw [List.forall_mem_singleton]
    apply hdigit.1
  have hcoefficient : Nat.ofDigitChars 10 (first :: fraction) 0 = d.coefficient := by
    rw [← hdigits, ofDigitChars_digits]
  rw [hscientific]
  cases fraction with
  | nil =>
    rw [if_pos rfl, List.nil_append, List.length_nil, Int.natCast_zero, Int.add_zero]
    change ofText? ([first] ++ _) = _
    rw [ofText?_exponent (List.cons_ne_nil _ _) hfirst, integer?_integerText, Option.map_some,
      hcoefficient]
  | cons second rest =>
    rw [if_neg (List.cons_ne_nil second rest), List.cons_append]
    change ofText? ([first] ++ _) = _
    rw [ofText?_point_exponent (List.cons_ne_nil _ _) hfirst hdigit.2, integer?_integerText,
      Option.map_some, List.singleton_append, hcoefficient, Int.add_sub_cancel]

/-- An integer is written with digits and a minus sign. -/
theorem eq_minus_or_isDigit_of_mem_integerText {e : Int} {c : Char} (h : c ∈ integerText e) :
  c = '-' ∨ c.isDigit
  := by
  have hdigit {n : Nat} (hc : c ∈ Nat.toDigits 10 n) : c.isDigit :=
    Nat.isDigit_of_mem_toDigits (Nat.succ_pos 9) (Nat.le_refl 10) hc
  cases e with
  | ofNat n =>
    right
    apply hdigit h
  | negSucc n =>
    rcases List.mem_cons.mp h with rfl | h
    · left
      rfl
    · right
      apply hdigit h

/-- Scientific notation consists of numeric characters, the mark of the exponent and a minus sign.
-/
theorem eq_or_isNumeric_of_mem_scientific {d : Decimal} {c : Char} (h : c ∈ d.scientific) :
  c = 'e' ∨ c = '-' ∨ Number.isNumeric c
  := by
  obtain ⟨first, fraction, -, hdigit, hscientific⟩ := d.exists_scientific_eq
  rw [List.forall_mem_cons] at hdigit
  rw [hscientific, List.mem_cons, List.mem_append, List.mem_cons] at h
  rcases h with rfl | h | rfl | h
  · right
    right
    apply isNumeric_of_isDigit hdigit.1
  · right
    right
    split at h
    · cases h
    · rcases List.mem_cons.mp h with rfl | h
      · rfl
      · apply isNumeric_of_isDigit (hdigit.2 c h)
  · left
    rfl
  · right
    exact (eq_minus_or_isDigit_of_mem_integerText h).imp_right isNumeric_of_isDigit

theorem exists_isDigit_scientific (d : Decimal) :
  ∃ c s, d.scientific = c :: s ∧ c.isDigit
  := by
  obtain ⟨first, fraction, -, hdigit, hscientific⟩ := d.exists_scientific_eq
  exact ⟨first, _, hscientific, hdigit first List.mem_cons_self⟩

theorem exists_isDigit_positional (d : Decimal) :
  ∃ c s, d.positional = c :: s ∧ c.isDigit
  := by
  obtain ⟨whole, fraction, h⟩ := d.exists_isPlaced
  obtain ⟨first, rest, rfl⟩ := List.exists_cons_of_ne_nil h.whole_ne_nil
  use first, rest ++ '.' :: fraction, h.positional_eq
  apply h.isDigit_whole first List.mem_cons_self

end Decimal

/-! ### Faithful layouts -/

namespace Number

/-- A layout is faithful if it writes each finite pattern with a digit in front, and as a text that
is read as a decimal of this pattern. -/
def IsFaithful (layout : Nat → Text) : Prop :=
  ∀ p < infinity, (∃ c s, layout p = c :: s ∧ c.isDigit)
    ∧ (Decimal.ofText? (layout p)).map Decimal.pattern = some p

/-- A text with a digit in front is no word and has no sign. -/
theorem patternOfText?_of_isDigit {c : Char} {s : Text} (h : c.isDigit) :
  patternOfText? (c :: s) = (Decimal.ofText? (c :: s)).map Decimal.pattern
  := by
  have hlower : c.toLower = c := toLower_of_isNumeric (isNumeric_of_isDigit h)
  have hword : ∀ (d : Char) (word : Text), d.isDigit = false →
      Text.asciiLower (c :: s) ≠ d :: word := by
    intro d word hd heq
    rw [Text.asciiLower, List.map_cons, hlower] at heq
    rw [← (List.cons.inj heq).1, h] at hd
    cases hd
  rw [patternOfText?, if_neg, if_neg]
  · apply hword 'n' _ rfl
  · rintro (hinf | hinfinity)
    · apply hword 'i' _ rfl hinf
    · apply hword 'i' _ rfl hinfinity

/-- The value that is no number is unique. -/
theorem eq_undefined {v : Number} (h : infinity < v.pattern) :
  v = ofPattern false undefined
  := by
  have hexponent := exponentField_eq_iff.mpr (Nat.le_of_lt h)
  have hmantissa := (mantissaField_eq_iff (Nat.le_of_lt h)).not.mpr (Nat.ne_of_gt h)
  have hpacked := v.toModel.valid.eq_packedNaN hexponent hmantissa
  have hbits : v.toBits.toNat = undefined := congrArg BitVec.toNat hpacked
  have hpattern : v.pattern = undefined := by
    rw [pattern, hbits]
    rfl
  have hnegative : v.isNegative = false := by
    rw [isNegative, hbits]
    rfl
  rw [← hpattern, ← hnegative, ofPattern_pattern]

/-- A minus sign in front of a text says that the number that is read from it is negative. -/
theorem ofText?_signed {s : Text} {p : Nat} (h : patternOfText? s = some p)
    (hplus : s.head? ≠ some '+') (hminus : s.head? ≠ some '-') (negative : Bool) :
  ofText? ((if negative then ['-'] else []) ++ s) = some (ofPattern negative p)
  := by
  cases negative with
  | true =>
    change (patternOfText? s).map (ofPattern true) = _
    rw [h, Option.map_some]
  | false =>
    change ofText? s = _
    unfold ofText?
    split
    · cases hminus rfl
    · cases hplus rfl
    · rw [h, Option.map_some]

/-- What is written by a faithful layout is read as the number that was written. -/
theorem ofText?_write {layout : Nat → Text} (h : IsFaithful layout) (v : Number) :
  ofText? (v.write layout) = some v
  := by
  rcases v.kind_cases with hfinite | hinf | hnan
  · obtain ⟨⟨c, s, hcons, hdigit⟩, hpattern⟩ := h v.pattern hfinite
    have hhead : ∀ d : Char, d.isDigit = false → (layout v.pattern).head? ≠ some d := by
      intro d hd heq
      rw [hcons] at heq
      rw [← Option.some.inj heq, hdigit] at hd
      cases hd
    rw [write_of_isFinite hfinite]
    conv_rhs => rw [← ofPattern_pattern v]
    apply ofText?_signed _ (hhead '+' rfl) (hhead '-' rfl)
    rw [← hpattern, hcons, patternOfText?_of_isDigit hdigit]
  · rw [write_of_isInf hinf]
    conv_rhs => rw [← ofPattern_pattern v, hinf]
    apply ofText?_signed (by rfl) (by decide) (by decide)
  · rw [write_of_isNaN hnan, eq_undefined hnan]
    rfl

/-- The positional layout is faithful. -/
theorem isFaithful_positional :
  IsFaithful fun p => (Decimal.shortest p).positional
  := by
  intro p hp
  use Decimal.exists_isDigit_positional _
  rw [Decimal.ofText?_positional, Option.map_some, Decimal.pattern_placed_shortest hp]

/-- The layout that changes to scientific notation outside the plain range is faithful. -/
theorem isFaithful_display :
  IsFaithful fun p =>
    if isPlain p then (Decimal.shortest p).positional else (Decimal.shortest p).scientific
  := by
  intro p hp
  dsimp only
  split
  · apply isFaithful_positional p hp
  · use Decimal.exists_isDigit_scientific _
    rw [Decimal.ofText?_scientific, Option.map_some, Decimal.pattern_shortest hp]

/-- What a user is shown is read as the number that is shown. -/
theorem ofText?_display (v : Number) :
  ofText? v.display = some v
  := ofText?_write isFaithful_display v

/-- What stands for a number within an expression is read as this number, even if it is no literal.
-/
theorem ofText?_spell (v : Number) :
  ofText? v.spell = some v
  := by
  rw [spell_eq_write]
  apply ofText?_write isFaithful_positional

/-- Different numbers are shown differently. -/
theorem display_injective :
  Function.Injective display
  := by
  intro v v' h
  have hsome : some v = some v' := by
    rw [← ofText?_display v, h, ofText?_display]
  apply Option.some.inj hsome

/-- What a user is shown of a number contains no blank character. -/
theorem isBlank_of_mem_display {v : Number} {c : Char} (hc : c ∈ v.display) :
  isBlank c = false
  := by
  rcases mem_write_cases hc with hc | rfl | ⟨-, hc⟩
  · apply isBlank_of_isLetter hc
  · rfl
  · split at hc
    · apply isBlank_of_isNumeric (isNumeric_of_mem_positional hc)
    · rcases Decimal.eq_or_isNumeric_of_mem_scientific hc with rfl | rfl | hc
      · rfl
      · rfl
      · apply isBlank_of_isNumeric hc

end Number

end Reckoner
