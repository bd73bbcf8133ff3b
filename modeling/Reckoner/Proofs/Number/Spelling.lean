import Mathlib
import Reckoner.Proofs.Expression.Balance
import Reckoner.Proofs.Number.RoundTrip

/-!
# The text that stands for a number

`Number.spell` writes a finite number in positional notation (`spell_eq_write`): as digits around
one point, with a minus sign in front of them if the number is negative. Without the sign this is a
literal, and the literal has the number as its value. What is not finite is written as a word, so
that it contains a letter. No number is written with a parenthesis.
-/

namespace Reckoner

namespace Number

variable {v : Number}

/-- A number is finite if its pattern is below that of infinity. -/
def IsFinite (v : Number) : Prop :=
  v.pattern < infinity

instance : DecidablePred IsFinite := fun v =>
  inferInstanceAs (Decidable (v.pattern < infinity))

/-- A number is unsigned if it is finite and its sign bit is clear. -/
def IsUnsigned (v : Number) : Prop :=
  v.IsFinite ∧ v.isNegative = false

instance : DecidablePred IsUnsigned := fun v =>
  inferInstanceAs (Decidable (v.IsFinite ∧ v.isNegative = false))

/-- A number is the one with its sign and its pattern. -/
theorem ofPattern_pattern (v : Number) :
  ofPattern v.isNegative v.pattern = v
  := by
  have hbits : (if v.isNegative then signBit + v.pattern else v.pattern) = v.toBits.toNat := by
    have hlt := v.toBits.toNat_lt
    rw [isNegative, pattern, signBit]
    split
    · rename_i h
      rw [decide_eq_true_eq] at h
      omega
    · rename_i h
      rw [decide_eq_true_eq] at h
      omega
  rw [ofPattern, hbits, UInt64.ofNat_toNat, Float.ofBits_toBits]

/-! ### The kinds of numbers -/

/-- A number is finite, infinite or no number. -/
theorem kind_cases (v : Number) :
  v.IsFinite ∨ v.pattern = infinity ∨ infinity < v.pattern
  := Nat.lt_trichotomy v.pattern infinity

/-- A finite number is written as its sign and the layout of its pattern. -/
theorem write_of_isFinite (h : v.IsFinite) (layout : Nat → Text) :
  v.write layout = (if v.isNegative then ['-'] else []) ++ layout v.pattern
  := by
  have hlt : v.pattern < infinity := h
  rw [write, if_neg (Nat.lt_asymm hlt), if_neg (Nat.ne_of_lt hlt)]

/-- An infinite number is written as its sign and a word, in every layout. -/
theorem write_of_isInf (h : v.pattern = infinity) (layout : Nat → Text) :
  v.write layout = (if v.isNegative then ['-'] else []) ++ "inf".toList
  := by
  rw [write, if_neg (Nat.not_lt.mpr (Nat.le_of_eq h)), if_pos h]

/-- What is no number is written as a word, in every layout. -/
theorem write_of_isNaN (h : infinity < v.pattern) (layout : Nat → Text) :
  v.write layout = "NaN".toList
  := by
  rw [write, if_pos h]

/-- A number that is not finite is written as a word, whatever the layout. -/
theorem write_congr {layout layout' : Nat → Text}
    (h : v.IsFinite → layout v.pattern = layout' v.pattern) :
  v.write layout = v.write layout'
  := by
  rcases v.kind_cases with hfinite | hinf | hnan
  · rw [write_of_isFinite hfinite, write_of_isFinite hfinite, h hfinite]
  · rw [write_of_isInf hinf, write_of_isInf hinf]
  · rw [write_of_isNaN hnan, write_of_isNaN hnan]

theorem eq_minus_of_mem_sign {negative : Bool} {c : Char}
    (h : c ∈ (if negative then ['-'] else [] : Text)) :
  c = '-'
  := by
  split at h
  · apply List.mem_singleton.mp h
  · cases h

/-! ### Positional notation -/

theorem isNumeric_of_mem_positional {d : Decimal} {c : Char} (h : c ∈ d.positional) :
  isNumeric c
  := by
  obtain ⟨whole, fraction, hplaced⟩ := d.exists_isPlaced
  rw [hplaced.positional_eq, List.mem_append, List.mem_cons] at h
  rcases h with h | rfl | h
  · apply isNumeric_of_isDigit (hplaced.isDigit_whole c h)
  · rfl
  · apply isNumeric_of_isDigit (hplaced.isDigit_fraction c h)

/-- Positional notation has one point. -/
theorem count_point_positional (d : Decimal) :
  d.positional.count '.' = 1
  := by
  obtain ⟨whole, fraction, h⟩ := d.exists_isPlaced
  rw [h.positional_eq, List.count_append, List.count_cons_self,
    count_point_of_isDigit h.isDigit_whole, count_point_of_isDigit h.isDigit_fraction]

theorem isDigit_of_mem_sides {d : Decimal} {c : Char} (h : c ∈ d.sides.1) :
  c.isDigit
  := by
  unfold Decimal.sides at h
  split at h
  · obtain h | h := List.mem_append.mp h
    · apply Decimal.isDigit_of_mem_digits h
    · apply Decimal.isDigit_of_mem_zeros h
  · dsimp only at h
    split at h
    · rw [List.mem_singleton.mp h]
      rfl
    · apply Decimal.isDigit_of_mem_digits (List.mem_of_mem_take h)

/-- Positional notation with at least one place is the standard layout with a point and a zero
behind it if there is no point in it. -/
theorem positional_eq_compact (d : Decimal) :
  d.positional = if '.' ∈ d.compact then d.compact else d.compact ++ ['.', '0']
  := by
  rw [Decimal.positional, Decimal.compact]
  by_cases h : d.sides.2 = []
  · have hwhole : '.' ∉ d.sides.1 := not_mem_of_isDigit fun c => isDigit_of_mem_sides
    rw [if_pos h, if_pos h, if_neg hwhole]
  · have hpoint : '.' ∈ d.sides.1 ++ '.' :: d.sides.2 := List.mem_append_right _ List.mem_cons_self
    rw [if_neg h, if_neg h, if_pos hpoint]

/-- A finite number has a point in its standard text if and only if its decimal has one in the
standard layout. -/
theorem mem_compact_iff (h : v.IsFinite) :
  '.' ∈ v.compact ↔ '.' ∈ (Decimal.shortest v.pattern).compact
  := by
  rw [compact, write_of_isFinite h, List.mem_append, or_iff_right]
  intro hsign
  cases eq_minus_of_mem_sign hsign

/-- The text that stands for a number within an expression is in positional notation with at least
one place, if the number is finite. -/
theorem spell_eq_write (v : Number) :
  v.spell = v.write fun p => (Decimal.shortest p).positional
  := by
  rw [spell]
  by_cases h : v.IsFinite
  · by_cases hpoint : '.' ∈ v.compact
    · rw [if_neg fun hnot => hnot.2 hpoint, compact]
      apply write_congr
      intro _
      rw [positional_eq_compact, if_pos ((mem_compact_iff h).mp hpoint)]
    · rw [if_pos ⟨h, hpoint⟩, compact, write_of_isFinite h, write_of_isFinite h,
        positional_eq_compact, if_neg ((mem_compact_iff h).not.mp hpoint), List.append_assoc]
  · rw [if_neg fun hfinite => h hfinite.1]
    apply write_congr
    intro hfinite
    cases h hfinite

example :
  spell 12000000 = "12000000.0".toList ∧ spell 1e-7 = "0.0000001".toList
  := by decide +kernel

/-! ### Finite numbers -/

/-- A finite number is spelled as its sign and the positional notation of its shortest decimal. -/
theorem spell_of_isFinite (h : v.IsFinite) :
  v.spell = (if v.isNegative then ['-'] else []) ++ (Decimal.shortest v.pattern).positional
  := by
  rw [spell_eq_write, write_of_isFinite h]

/-- An unsigned number is spelled as the positional notation of its shortest decimal. -/
theorem spell_of_isUnsigned (h : v.IsUnsigned) :
  v.spell = (Decimal.shortest v.pattern).positional
  := by
  rw [spell_of_isFinite h.1, h.2]
  rfl

theorem isNumeric_of_mem_spell (h : v.IsUnsigned) {c : Char} (hc : c ∈ v.spell) :
  isNumeric c
  := by
  rw [spell_of_isUnsigned h] at hc
  apply isNumeric_of_mem_positional hc

/-- The text of a finite number without a sign is read as this number. -/
theorem ofLiteral?_spell (h : v.IsUnsigned) :
  ofLiteral? v.spell = some v
  := by
  rw [ofLiteral?_of_isNumeric fun c hc => isNumeric_of_mem_spell h hc, spell_of_isUnsigned h,
    Decimal.ofText?_positional, Option.map_some, Decimal.pattern_placed_shortest h.1, ← h.2,
    ofPattern_pattern]

/-- The spelling of an unsigned number is a literal with this value. -/
theorem literal_spell (h : v.IsUnsigned) :
  literal v.spell = .ok v
  := by
  rw [literal, ofLiteral?_spell h]

theorem isLiteral_spell (h : v.IsUnsigned) :
  IsLiteral v.spell
  := by
  rw [← isSome_ofLiteral?_iff, ofLiteral?_spell h]
  rfl

/-- The spelling of a finite number with its sign bit set starts with a minus sign. -/
theorem exists_spell_of_isNegative (h : v.IsFinite) (hnegative : v.isNegative) :
  ∃ s, v.spell = '-' :: s
  := by
  rw [spell_of_isFinite h, hnegative]
  use (Decimal.shortest v.pattern).positional
  rfl

/-- A finite number is written with numeric characters and the minus sign only. -/
theorem eq_minus_or_isNumeric_of_mem_spell (h : v.IsFinite) {c : Char} (hc : c ∈ v.spell) :
  c = '-' ∨ isNumeric c
  := by
  rw [spell_of_isFinite h, List.mem_append] at hc
  rcases hc with hc | hc
  · left
    apply eq_minus_of_mem_sign hc
  · right
    apply isNumeric_of_mem_positional hc

/-- The spelling of a finite number has no letters. -/
theorem isLetter_of_mem_spell (h : v.IsFinite) {c : Char} (hc : c ∈ v.spell) :
  isLetter c = false
  := by
  rcases eq_minus_or_isNumeric_of_mem_spell h hc with rfl | hc
  · apply isLetter_eq_false_of_lt (by decide)
  · apply isLetter_of_isNumeric hc

/-- The spelling of a finite number has one point. -/
theorem count_point_spell (h : v.IsFinite) :
  v.spell.count '.' = 1
  := by
  rw [spell_of_isFinite h, List.count_append, count_point_positional]
  split
  · rfl
  · rfl

/-! ### All numbers -/

/-- The spelling of a number that is not finite has a letter. -/
theorem exists_isLetter_of_not_isFinite (h : ¬v.IsFinite) :
  ∃ c ∈ v.spell, isLetter c
  := by
  rcases v.kind_cases with hfinite | hinf | hnan
  · cases h hfinite
  · rw [spell_eq_write, write_of_isInf hinf]
    refine ⟨'i', List.mem_append_right _ (by decide), by decide +kernel⟩
  · rw [spell_eq_write, write_of_isNaN hnan]
    refine ⟨'N', by decide, by decide +kernel⟩

theorem spell_ne_nil (v : Number) :
  v.spell ≠ []
  := by
  by_cases h : v.IsFinite
  · intro hnil
    have hcount := count_point_spell h
    rw [hnil] at hcount
    cases hcount
  · obtain ⟨c, hc, -⟩ := exists_isLetter_of_not_isFinite h
    apply List.ne_nil_of_mem hc

/-- The characters of a written number are the letters of a word, the minus sign, and those that its
layout has. -/
theorem mem_write_cases {layout : Nat → Text} {c : Char} (hc : c ∈ v.write layout) :
  isLetter c ∨ c = '-' ∨ v.IsFinite ∧ c ∈ layout v.pattern
  := by
  have hword : ∀ word : Text, word.all isLetter → c ∈ word → isLetter c := by
    intro word hletter hmem
    apply List.all_eq_true.mp hletter c hmem
  rcases v.kind_cases with hfinite | hinf | hnan
  · right
    rw [write_of_isFinite hfinite, List.mem_append] at hc
    rcases hc with hc | hc
    · left
      apply eq_minus_of_mem_sign hc
    · right
      exact ⟨hfinite, hc⟩
  · rw [write_of_isInf hinf, List.mem_append] at hc
    rcases hc with hc | hc
    · right
      left
      apply eq_minus_of_mem_sign hc
    · left
      apply hword _ (by decide +kernel) hc
  · left
    rw [write_of_isNaN hnan] at hc
    apply hword _ (by decide +kernel) hc

/-- No number is spelled with blank characters. -/
theorem isBlank_of_mem_spell {c : Char} (hc : c ∈ v.spell) :
  isBlank c = false
  := by
  rw [spell_eq_write] at hc
  rcases mem_write_cases hc with hc | rfl | ⟨-, hc⟩
  · apply isBlank_of_isLetter hc
  · rfl
  · apply isBlank_of_isNumeric (isNumeric_of_mem_positional hc)

/-- No number is spelled with parentheses. -/
theorem opens_of_mem_spell {c : Char} (hc : c ∈ v.spell) :
  opens c = 0
  := by
  rw [spell_eq_write] at hc
  rcases mem_write_cases hc with hc | rfl | ⟨-, hc⟩
  · apply opens_of_isLetter hc
  · rfl
  · apply opens_of_isNumeric (isNumeric_of_mem_positional hc)

theorem unclosed_spell (v : Number) :
  unclosed v.spell = 0
  := unclosed_eq_zero fun _ => opens_of_mem_spell

end Number

end Reckoner
