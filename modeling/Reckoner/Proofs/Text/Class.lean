import Reckoner.Expression.Tree
import Reckoner.Text.Blank

/-!
# Classes of characters

Letters, numeric characters, blank characters, the symbols of operators and the two parentheses
are classes of characters without common members. All but the letters and some of the blank
characters have code points below those of letters. A literal or a name therefore contains no
character of any class but its own.
-/

namespace Reckoner

/-! ### Letters -/

/-- No letter is below `A`. -/
theorem le_toNat_of_isLetter {c : Char} (h : isLetter c) :
  0x41 ≤ c.toNat
  := by
  obtain ⟨r, hr, hlow, -⟩ := isLetter_iff.mp h
  have hascending : areAscending 0x41 letterRanges := by decide +kernel
  apply Nat.le_trans (le_of_areAscending hascending hr) hlow

theorem isLetter_eq_false_of_lt {c : Char} (h : c.toNat < 0x41) :
  isLetter c = false
  := by
  rw [Bool.eq_false_iff]
  intro hletter
  have := le_toNat_of_isLetter hletter
  omega

/-! ### Blank characters -/

/-- The code points of the blank characters. -/
def blankCodePoints : List Nat :=
  [0x9, 0xA, 0xB, 0xC, 0xD, 0x20, 0x85, 0xA0, 0x1680, 0x2000, 0x2001, 0x2002, 0x2003, 0x2004,
    0x2005, 0x2006, 0x2007, 0x2008, 0x2009, 0x200A, 0x2028, 0x2029, 0x202F, 0x205F, 0x3000]

/-- The code point of a blank character is one of the list. -/
theorem toNat_mem_blankCodePoints {c : Char} (h : isBlank c) :
  c.toNat ∈ blankCodePoints
  := by
  simp only [isBlank, Bool.or_eq_true, Bool.and_eq_true, decide_eq_true_eq, beq_iff_eq] at h
  simp only [blankCodePoints, List.mem_cons, List.not_mem_nil]
  omega

/-- A blank character is no letter. -/
theorem isLetter_of_isBlank {c : Char} (h : isBlank c) :
  isLetter c = false
  := by
  have hapart : ∀ n ∈ blankCodePoints, inRanges n letterRanges = false := by decide +kernel
  apply hapart _ (toNat_mem_blankCodePoints h)

theorem isBlank_of_isLetter {c : Char} (h : isLetter c) :
  isBlank c = false
  := by
  rw [Bool.eq_false_iff]
  intro hblank
  rw [isLetter_of_isBlank hblank] at h
  cases h

/-! ### Numeric characters -/

/-- A numeric character is a digit or the point. -/
theorem isNumeric_iff {c : Char} :
  Number.isNumeric c ↔ 0x30 ≤ c.toNat ∧ c.toNat ≤ 0x39 ∨ c = '.'
  := by
  simp only [Number.isNumeric, Char.isDigit, Bool.or_eq_true, Bool.and_eq_true, decide_eq_true_eq,
    beq_iff_eq]
  rfl

theorem isLetter_of_isNumeric {c : Char} (h : Number.isNumeric c) :
  isLetter c = false
  := by
  apply isLetter_eq_false_of_lt
  rcases isNumeric_iff.mp h with ⟨-, hhigh⟩ | rfl
  · omega
  · decide

theorem isNumeric_of_isLetter {c : Char} (h : isLetter c) :
  Number.isNumeric c = false
  := by
  rw [Bool.eq_false_iff]
  intro hnumeric
  rw [isLetter_of_isNumeric hnumeric] at h
  cases h

theorem isBlank_of_isNumeric {c : Char} (h : Number.isNumeric c) :
  isBlank c = false
  := by
  rw [Bool.eq_false_iff]
  intro hblank
  have hmem := toNat_mem_blankCodePoints hblank
  rcases isNumeric_iff.mp h with ⟨hlow, hhigh⟩ | rfl
  · simp only [blankCodePoints, List.mem_cons, List.not_mem_nil, or_false] at hmem
    omega
  · revert hmem
    decide

theorem isNumeric_of_isBlank {c : Char} (h : isBlank c) :
  Number.isNumeric c = false
  := by
  rw [Bool.eq_false_iff]
  intro hnumeric
  rw [isBlank_of_isNumeric hnumeric] at h
  cases h

/-! ### Operators and parentheses -/

/-- Only parentheses change how many of them are open. -/
theorem opens_eq_zero {c : Char} (hleft : c ≠ '(') (hright : c ≠ ')') :
  opens c = 0
  := by
  rw [opens, if_neg hleft, if_neg hright]

@[simp]
theorem opens_symbol (o : Operator) :
  opens o.symbol = 0
  := by
  cases o <;> rfl

theorem isLetter_leftParen :
  isLetter '(' = false
  := isLetter_eq_false_of_lt (by decide)

theorem isLetter_rightParen :
  isLetter ')' = false
  := isLetter_eq_false_of_lt (by decide)

theorem isLetter_symbol (o : Operator) :
  isLetter o.symbol = false
  := by
  apply isLetter_eq_false_of_lt
  cases o <;> decide

theorem isNumeric_symbol (o : Operator) :
  Number.isNumeric o.symbol = false
  := by
  cases o <;> rfl

theorem isBlank_symbol (o : Operator) :
  isBlank o.symbol = false
  := by
  cases o <;> rfl

/-- The symbols of operators are four characters. -/
theorem exists_eq_symbol_iff {c : Char} :
  (∃ o : Operator, c = o.symbol) ↔ c ∈ ['+', '-', '*', '/']
  := by
  constructor
  · rintro ⟨o, rfl⟩
    cases o <;> decide
  · intro hc
    simp only [List.mem_cons, List.not_mem_nil, or_false] at hc
    rcases hc with rfl | rfl | rfl | rfl
    · exact ⟨.add, rfl⟩
    · exact ⟨.sub, rfl⟩
    · exact ⟨.mul, rfl⟩
    · exact ⟨.div, rfl⟩

/-- A character that is no symbol stands for no operator. -/
theorem ofChar?_eq_none {c : Char} (h : ∀ o : Operator, c ≠ o.symbol) :
  Operator.ofChar? c = none
  := by
  rw [Option.eq_none_iff_forall_ne_some]
  intro o ho
  apply h o (Operator.eq_symbol_of_ofChar? ho)

theorem ofChar?_of_isNumeric {c : Char} (h : Number.isNumeric c) :
  Operator.ofChar? c = none
  := by
  apply ofChar?_eq_none
  rintro o rfl
  rw [isNumeric_symbol] at h
  cases h

theorem ofChar?_of_isLetter {c : Char} (h : isLetter c) :
  Operator.ofChar? c = none
  := by
  apply ofChar?_eq_none
  rintro o rfl
  rw [isLetter_symbol] at h
  cases h

theorem opens_of_isNumeric {c : Char} (h : Number.isNumeric c) :
  opens c = 0
  := by
  apply opens_eq_zero
  · rintro rfl
    revert h
    decide
  · rintro rfl
    revert h
    decide

theorem opens_of_isBlank {c : Char} (h : isBlank c) :
  opens c = 0
  := by
  apply opens_eq_zero
  · rintro rfl
    cases h
  · rintro rfl
    cases h

theorem opens_of_isLetter {c : Char} (h : isLetter c) :
  opens c = 0
  := by
  have hle := le_toNat_of_isLetter h
  apply opens_eq_zero
  · rintro rfl
    revert hle
    decide
  · rintro rfl
    revert hle
    decide

/-! ### Literals and names -/

/-- All characters of a number are numeric. -/
theorem IsLiteral.not_mem {s : Text} {c : Char} (h : IsLiteral s)
    (hc : Number.isNumeric c = false) :
  c ∉ s
  := by
  intro hmem
  rw [h.1 c hmem] at hc
  cases hc

/-- All characters of a name are letters. -/
theorem IsName.not_mem {s : Text} {c : Char} (h : IsName s) (hc : isLetter c = false) :
  c ∉ s
  := by
  intro hmem
  rw [h.2 c hmem] at hc
  cases hc

end Reckoner
