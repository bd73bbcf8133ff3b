import Reckoner.Proofs.Text.Class

/-!
# Trimmed texts

`Text.trim` drops the blank characters at the two ends of a text. What it leaves is trimmed, and of
a trimmed text between blank ones it leaves that text. A text with upper case letters in place of
lower case ones, or conversely, is trimmed if and only if the text itself is.
-/

namespace Reckoner

namespace Text

variable {s w w' : Text}

/-- A text is blank if all its characters are. -/
def IsBlank (s : Text) : Prop :=
  ∀ c ∈ s, isBlank c

instance : DecidablePred IsBlank := fun s =>
  decidable_of_iff (s.all isBlank) List.all_eq_true

/-- A text is trimmed if no blank character is at its start or at its end. -/
structure IsTrimmed (s : Text) : Prop where
  isBlank_head : ∀ c ∈ s.head?, isBlank c = false
  isBlank_last : ∀ c ∈ s.getLast?, isBlank c = false

theorem isTrimmed_iff :
  s.IsTrimmed ↔ (∀ c ∈ s.head?, isBlank c = false) ∧ ∀ c ∈ s.getLast?, isBlank c = false
  := ⟨fun h => ⟨h.1, h.2⟩, fun h => ⟨h.1, h.2⟩⟩

instance : DecidablePred IsTrimmed := fun s =>
  decidable_of_iff (s.head?.all (!isBlank ·) ∧ s.getLast?.all (!isBlank ·)) (by
    rw [isTrimmed_iff, Option.all_eq_true, Option.all_eq_true]
    simp only [Bool.not_eq_true', Option.mem_def])

/-- A text without blank characters is trimmed. -/
theorem isTrimmed_of_isBlank (h : ∀ c ∈ s, isBlank c = false) :
  s.IsTrimmed
  := by
  constructor
  · intro c hc
    apply h c (List.mem_of_mem_head? hc)
  · intro c hc
    apply h c (List.mem_of_mem_getLast? hc)

/-! ### Dropping blank characters -/

/-- Blank characters in front of a text are dropped with those at its start. -/
theorem trimStart_append (hw : w.IsBlank) (s : Text) :
  trimStart (w ++ s) = trimStart s
  := List.dropWhile_append_of_pos hw

theorem trimStart_eq_self (h : ∀ c ∈ s.head?, isBlank c = false) :
  trimStart s = s
  := by
  cases s with
  | nil => rfl
  | cons c s =>
    apply List.dropWhile_cons_of_neg
    rw [h c rfl]
    apply Bool.false_ne_true

/-- No blank character is left at the start. -/
theorem isBlank_head_trimStart (s : Text) :
  ∀ c ∈ (trimStart s).head?, isBlank c = false
  := by
  intro c hc
  have hnot := List.head?_dropWhile_not isBlank s
  change (trimStart s).head? = some c at hc
  rw [← trimStart, hc] at hnot
  simpa using hnot

theorem IsBlank.reverse (h : w.IsBlank) :
  IsBlank w.reverse
  := by
  intro c hc
  apply h c (List.mem_reverse.mp hc)

theorem trimEnd_append (hw : w.IsBlank) (s : Text) :
  trimEnd (s ++ w) = trimEnd s
  := by
  rw [trimEnd, List.reverse_append, trimStart_append hw.reverse, trimEnd]

theorem trimEnd_eq_self (h : ∀ c ∈ s.getLast?, isBlank c = false) :
  trimEnd s = s
  := by
  rw [trimEnd, trimStart_eq_self, List.reverse_reverse]
  rw [List.head?_reverse]
  apply h

/-- What is left when the end is dropped is the beginning of the text. -/
theorem trimEnd_prefix (s : Text) :
  trimEnd s <+: s
  := by
  rw [trimEnd, ← List.reverse_suffix, List.reverse_reverse]
  apply List.dropWhile_suffix

/-- A trimmed text is what is left of it between blank ones. -/
theorem IsTrimmed.trim_eq (h : s.IsTrimmed) (hw : w.IsBlank) (hw' : w'.IsBlank) :
  trim (w ++ s ++ w') = s
  := by
  cases s with
  | nil =>
    rw [List.append_nil, trim, trimStart_append hw, ← List.append_nil w', trimStart_append hw']
    rfl
  | cons c s =>
    have hstart : trimStart (c :: s ++ w') = c :: s ++ w' := by
      apply trimStart_eq_self
      rintro d hd
      apply h.isBlank_head d hd
    rw [List.append_assoc, trim, trimStart_append hw, hstart, trimEnd_append hw',
      trimEnd_eq_self h.isBlank_last]

theorem isTrimmed_trim (s : Text) :
  (trim s).IsTrimmed
  := by
  constructor
  · intro c hc
    obtain ⟨rest, hrest⟩ := trimEnd_prefix (trimStart s)
    apply isBlank_head_trimStart s
    rw [← hrest]
    change (trimEnd (trimStart s)).head? = some c at hc
    rw [List.head?_append, hc]
    rfl
  · intro c hc
    apply isBlank_head_trimStart (trimStart s).reverse
    rw [← List.getLast?_reverse]
    apply hc

/-! ### Case -/

/-- A character differs from its lower case only if both are letters. -/
theorem toLower_cases (c : Char) :
  c.toLower = c ∨ isLetter c ∧ isLetter c.toLower
  := by
  by_cases hupper : c.val ≥ 'A'.val ∧ c.val ≤ 'Z'.val
  · right
    have hlow : 0x41 ≤ c.toNat := hupper.1
    have hhigh : c.toNat ≤ 0x5A := hupper.2
    have hlower : c.toLower.toNat = c.toNat + 0x20 := by
      have hval : c.toLower.val = c.val + 0x20 := congrArg Char.val (dif_pos hupper)
      change c.toLower.val.toNat = _
      rw [hval, UInt32.toNat_add]
      change (c.toNat + 0x20) % 2 ^ 32 = _
      omega
    rw [isLetter_iff, isLetter_iff]
    constructor
    · exact ⟨(0x41, 0x5A), by decide +kernel, hlow, hhigh⟩
    · exact ⟨(0x61, 0x7A), by decide +kernel, by omega, by omega⟩
  · left
    apply dif_neg hupper

/-- A character and its lower case are both blank or neither is. -/
theorem isBlank_toLower (c : Char) :
  isBlank c.toLower = isBlank c
  := by
  rcases toLower_cases c with h | ⟨h, h'⟩
  · rw [h]
  · rw [isBlank_of_isLetter h, isBlank_of_isLetter h']

/-- Whether a text is trimmed does not depend on the case of its letters. -/
theorem isTrimmed_asciiLower_iff :
  s.asciiLower.IsTrimmed ↔ s.IsTrimmed
  := by
  have hlower (x : Option Char) :
      (∀ c ∈ x.map Char.toLower, isBlank c = false) ↔ ∀ c ∈ x, isBlank c = false := by
    cases x with
    | none => simp
    | some c => simp [isBlank_toLower]
  rw [isTrimmed_iff, isTrimmed_iff, asciiLower, List.head?_map, List.getLast?_map, hlower, hlower]

/-- A character that is no letter is in a text whatever the case of its letters. -/
theorem mem_asciiLower_iff {c : Char} (h : isLetter c = false) :
  c ∈ s.asciiLower ↔ c ∈ s
  := by
  rw [asciiLower, List.mem_map]
  constructor
  · rintro ⟨d, hd, rfl⟩
    rcases toLower_cases d with heq | ⟨-, hletter⟩
    · rw [heq]
      apply hd
    · rw [hletter] at h
      cases h
  · intro hc
    rcases toLower_cases c with heq | ⟨hletter, -⟩
    · exact ⟨c, hc, heq⟩
    · rw [hletter] at h
      cases h

end Text

end Reckoner
