import Mathlib.Data.List.TakeWhile
import Mathlib.Tactic.Common
import Reckoner.Expression.Tree
import Reckoner.Proofs.Text.Class

/-!
# Literals

A literal is either digits alone or digits around a point. `Number.ofLiteral?` reads the literals
and no other text, and the number it reads is the one nearest to the decimal whose coefficient is
made of the digits and which has one place for each digit behind the point.
-/

namespace Reckoner

theorem isNumeric_of_isDigit {c : Char} (h : c.isDigit) :
  Number.isNumeric c
  := by
  rw [Number.isNumeric, h]
  rfl

/-- The only numeric character that is not a digit is the point. -/
theorem eq_point_of_isNumeric {c : Char} (h : Number.isNumeric c) (hdigit : ¬c.isDigit) :
  c = '.'
  := by
  simpa [Number.isNumeric, hdigit] using h

/-! ### Reading digits -/

namespace Decimal

/-- Digits alone are read as a whole number. -/
theorem ofText?_digits {whole : Text} (hne : whole ≠ []) (h : ∀ c ∈ whole, c.isDigit) :
  ofText? whole = some ⟨Nat.ofDigitChars 10 whole 0, 0⟩
  := by
  have htake := List.takeWhile_eq_self_iff.mpr h
  have hdrop := List.dropWhile_eq_nil_iff.mpr h
  simp [ofText?, htake, hdrop, splitFraction, hne, exponent?]

/-- Digits around a point are read as their coefficient with a place for each digit behind the
point. -/
theorem ofText?_point {whole fraction : Text} (hne : whole ++ fraction ≠ [])
    (hwhole : ∀ c ∈ whole, c.isDigit) (hfraction : ∀ c ∈ fraction, c.isDigit) :
  ofText? (whole ++ '.' :: fraction)
    = some ⟨Nat.ofDigitChars 10 (whole ++ fraction) 0, -(fraction.length : Int)⟩
  := by
  have hpoint : ¬('.' : Char).isDigit := by decide
  have htake : (whole ++ '.' :: fraction).takeWhile Char.isDigit = whole := by
    rw [List.takeWhile_append_of_pos hwhole, List.takeWhile_cons_of_neg hpoint, List.append_nil]
  have hdrop : (whole ++ '.' :: fraction).dropWhile Char.isDigit = '.' :: fraction := by
    rw [List.dropWhile_append_of_pos hwhole, List.dropWhile_cons_of_neg hpoint]
  have htake' := List.takeWhile_eq_self_iff.mpr hfraction
  have hdrop' := List.dropWhile_eq_nil_iff.mpr hfraction
  simp only [ofText?, htake, hdrop, splitFraction, htake', hdrop', if_neg hne, exponent?,
    Option.map_some, Int.zero_sub]

end Decimal

/-! ### Literals -/

theorem isDigit_of_isNumeric {s : Text} (h : ∀ c ∈ s, Number.isNumeric c) (hpoint : '.' ∉ s) :
  ∀ c ∈ s, c.isDigit
  := by
  intro c hc
  by_contra hdigit
  rw [← eq_point_of_isNumeric (h c hc) hdigit] at hpoint
  apply hpoint hc

theorem not_mem_of_isDigit {s : Text} (h : ∀ c ∈ s, c.isDigit) :
  '.' ∉ s
  := by
  intro hmem
  have := h _ hmem
  revert this
  decide

theorem count_point_of_isDigit {s : Text} (h : ∀ c ∈ s, c.isDigit) :
  s.count '.' = 0
  := List.count_eq_zero.mpr (not_mem_of_isDigit h)

/-- Digits are a number without a point. -/
theorem IsLiteral.digits {whole : Text} (hne : whole ≠ []) (h : ∀ c ∈ whole, c.isDigit) :
  IsLiteral whole
  := by
  obtain ⟨c, hc⟩ := List.exists_mem_of_ne_nil whole hne
  refine ⟨fun c hc => isNumeric_of_isDigit (h c hc), ⟨c, hc, h c hc⟩, ?_⟩
  rw [count_point_of_isDigit h]
  apply Nat.zero_le

/-- Digits on one or both sides of a point are a number. -/
theorem IsLiteral.point {whole fraction : Text} (hne : whole ++ fraction ≠ [])
    (hwhole : ∀ c ∈ whole, c.isDigit) (hfraction : ∀ c ∈ fraction, c.isDigit) :
  IsLiteral (whole ++ '.' :: fraction)
  := by
  have hdigit : ∀ c ∈ whole ++ fraction, c.isDigit := by
    intro c hc
    rcases List.mem_append.mp hc with hc | hc
    · apply hwhole c hc
    · apply hfraction c hc
  have hcons : ∀ c, c ∈ whole ++ '.' :: fraction ↔ c = '.' ∨ c ∈ whole ++ fraction := by
    intro c
    rw [List.mem_append, List.mem_cons, List.mem_append]
    tauto
  refine ⟨?_, ?_, ?_⟩
  · intro c hc
    rcases (hcons c).mp hc with rfl | hc
    · rfl
    · apply isNumeric_of_isDigit (hdigit c hc)
  · obtain ⟨c, hc⟩ := List.exists_mem_of_ne_nil _ hne
    use c, (hcons c).mpr (Or.inr hc), hdigit c hc
  · rw [List.count_append, List.count_cons_self, count_point_of_isDigit hwhole,
      count_point_of_isDigit hfraction]

/-- A literal consists of digits, or of digits and a point with a digit on one of its sides. -/
theorem IsLiteral.cases {s : Text} (h : IsLiteral s) :
  (s ≠ [] ∧ ∀ c ∈ s, c.isDigit)
    ∨ ∃ whole fraction, s = whole ++ '.' :: fraction ∧ whole ++ fraction ≠ []
      ∧ (∀ c ∈ whole, c.isDigit) ∧ ∀ c ∈ fraction, c.isDigit
  := by
  obtain ⟨hnumeric, ⟨d, hd, hdigit⟩, hcount⟩ := h
  by_cases hmem : '.' ∈ s
  · right
    obtain ⟨whole, fraction, rfl⟩ := List.append_of_mem hmem
    rw [List.count_append, List.count_cons_self] at hcount
    have hwhole : '.' ∉ whole := List.count_eq_zero.mp (by omega)
    have hfraction : '.' ∉ fraction := List.count_eq_zero.mp (by omega)
    use whole, fraction, rfl
    refine ⟨?_, ?_, ?_⟩
    · rintro hnil
      obtain ⟨rfl, rfl⟩ := List.append_eq_nil_iff.mp hnil
      rw [List.nil_append, List.mem_singleton] at hd
      rw [hd] at hdigit
      revert hdigit
      decide
    · apply isDigit_of_isNumeric _ hwhole
      intro c hc
      apply hnumeric c (List.mem_append_left _ hc)
    · apply isDigit_of_isNumeric _ hfraction
      intro c hc
      apply hnumeric c (List.mem_append_right _ (List.mem_cons_of_mem _ hc))
  · left
    use List.ne_nil_of_mem hd
    apply isDigit_of_isNumeric hnumeric hmem

/-- Behind the digits at the start of a numeric text there is nothing or a point. -/
theorem dropWhile_isDigit_of_isNumeric {s : Text} (h : ∀ c ∈ s, Number.isNumeric c) :
  s.dropWhile Char.isDigit = [] ∨ ∃ r, s.dropWhile Char.isDigit = '.' :: r
  := by
  cases hrest : s.dropWhile Char.isDigit with
  | nil =>
    left
    rfl
  | cons c r =>
    right
    have hc : ¬c.isDigit := by
      have hhead := List.head_dropWhile_not Char.isDigit (l := s) (by simp [hrest])
      simpa [hrest] using hhead
    have hmem : c ∈ s := by
      apply (List.dropWhile_suffix Char.isDigit).subset
      rw [hrest]
      apply List.mem_cons_self
    rw [eq_point_of_isNumeric (h c hmem) hc]
    use r

/-- There is no exponent in a numeric text. -/
theorem eq_nil_of_exponent? {s : Text} {e : Int} (h : ∀ c ∈ s, Number.isNumeric c)
    (he : Decimal.exponent? s = some e) :
  s = []
  := by
  cases s with
  | nil => rfl
  | cons c s =>
    have hc := h c List.mem_cons_self
    have hmark : ¬(c = 'e' ∨ c = 'E') := by
      rintro (rfl | rfl)
      · cases hc
      · cases hc
    rw [Decimal.exponent?, if_neg hmark] at he
    cases he

/-- A numeric text that is read as a decimal is a literal. -/
theorem IsLiteral.of_ofText? {s : Text} {d : Decimal} (hnumeric : ∀ c ∈ s, Number.isNumeric c)
    (h : Decimal.ofText? s = some d) :
  IsLiteral s
  := by
  have hs : s.takeWhile Char.isDigit ++ s.dropWhile Char.isDigit = s :=
    List.takeWhile_append_dropWhile
  have hwhole : ∀ c ∈ s.takeWhile Char.isDigit, c.isDigit := fun c hc => List.mem_takeWhile_imp hc
  rcases dropWhile_isDigit_of_isNumeric hnumeric with hrest | ⟨r, hrest⟩
  · rw [hrest, List.append_nil] at hs
    rw [← hs]
    apply IsLiteral.digits _ hwhole
    intro hnil
    simp [Decimal.ofText?, hnil, hrest, Decimal.splitFraction] at h
  · simp only [Decimal.ofText?, hrest, Decimal.splitFraction] at h
    split at h
    · cases h
    · rename_i hne
      have hr : r.takeWhile Char.isDigit ++ r.dropWhile Char.isDigit = r :=
        List.takeWhile_append_dropWhile
      have hmem : ∀ c ∈ r.dropWhile Char.isDigit, Number.isNumeric c := by
        intro c hc
        apply hnumeric
        rw [← hs, hrest]
        apply List.mem_append_right _ (List.mem_cons_of_mem _ _)
        apply (List.dropWhile_suffix Char.isDigit).subset hc
      obtain ⟨e, he, -⟩ := Option.map_eq_some_iff.mp h
      rw [eq_nil_of_exponent? hmem he, List.append_nil] at hr
      rw [← hs, hrest, ← hr]
      apply IsLiteral.point hne hwhole fun c hc => List.mem_takeWhile_imp hc

/-! ### Reading literals -/

/-- A literal is read as a decimal. -/
theorem IsLiteral.exists_decimal {s : Text} (h : IsLiteral s) :
  ∃ d, Decimal.ofText? s = some d
  := by
  rcases h.cases with ⟨hne, hdigit⟩ | ⟨whole, fraction, rfl, hne, hwhole, hfraction⟩
  · exact ⟨_, Decimal.ofText?_digits hne hdigit⟩
  · exact ⟨_, Decimal.ofText?_point hne hwhole hfraction⟩

/-- A numeric character has no other lower case. -/
theorem toLower_of_isNumeric {c : Char} (h : Number.isNumeric c) :
  c.toLower = c
  := by
  apply dif_neg
  rintro ⟨hlow, -⟩
  have hle : 0x41 ≤ c.toNat := hlow
  rcases isNumeric_iff.mp h with ⟨-, hhigh⟩ | rfl
  · omega
  · revert hle
    decide

theorem asciiLower_of_isNumeric {s : Text} (h : ∀ c ∈ s, Number.isNumeric c) :
  s.asciiLower = s
  := by
  rw [Text.asciiLower, List.map_congr_left fun c hc => toLower_of_isNumeric (h c hc)]
  apply List.map_id

/-- A numeric text is no word, so that only the form of a decimal remains for it. -/
theorem patternOfText?_of_isNumeric {s : Text} (h : ∀ c ∈ s, Number.isNumeric c) :
  Number.patternOfText? s = (Decimal.ofText? s).map Decimal.pattern
  := by
  have hword : ∀ (c : Char) (word : Text), Number.isNumeric c = false →
      s.asciiLower ≠ c :: word := by
    intro c word hc heq
    rw [asciiLower_of_isNumeric h] at heq
    rw [h c (heq ▸ List.mem_cons_self)] at hc
    cases hc
  rw [Number.patternOfText?, if_neg, if_neg]
  · apply hword 'n'
    rfl
  · rintro (hinf | hinfinity)
    · apply hword 'i' _ rfl hinf
    · apply hword 'i' _ rfl hinfinity

/-- A numeric text is read as a decimal without a sign. -/
theorem ofText?_of_isNumeric {s : Text} (h : ∀ c ∈ s, Number.isNumeric c) :
  Number.ofText? s = (Decimal.ofText? s).map fun d => Number.ofPattern false d.pattern
  := by
  have hcons : ∀ (c : Char) (t : Text), Number.isNumeric c = false → s ≠ c :: t := by
    rintro c t hc rfl
    rw [h c List.mem_cons_self] at hc
    cases hc
  unfold Number.ofText?
  split
  · cases hcons '-' _ rfl rfl
  · cases hcons '+' _ rfl rfl
  · rw [patternOfText?_of_isNumeric h, Option.map_map]
    rfl

/-- A numeric text in an expression is read as a decimal without a sign. -/
theorem ofLiteral?_of_isNumeric {s : Text} (h : ∀ c ∈ s, Number.isNumeric c) :
  Number.ofLiteral? s = (Decimal.ofText? s).map fun d => Number.ofPattern false d.pattern
  := by
  rw [Number.ofLiteral?, if_pos (List.all_eq_true.mpr h), ofText?_of_isNumeric h]

/-- The texts that are read as numbers of an expression are the literals. -/
theorem isSome_ofLiteral?_iff {s : Text} :
  (Number.ofLiteral? s).isSome ↔ IsLiteral s
  := by
  constructor
  · intro h
    by_cases hnumeric : ∀ c ∈ s, Number.isNumeric c
    · rw [ofLiteral?_of_isNumeric hnumeric, Option.isSome_map] at h
      obtain ⟨d, hd⟩ := Option.isSome_iff_exists.mp h
      apply IsLiteral.of_ofText? hnumeric hd
    · rw [Number.ofLiteral?, if_neg fun hall => hnumeric (List.all_eq_true.mp hall)] at h
      cases h
  · intro h
    obtain ⟨d, hd⟩ := h.exists_decimal
    rw [ofLiteral?_of_isNumeric h.1, hd]
    rfl

end Reckoner
