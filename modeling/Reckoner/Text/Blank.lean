import Reckoner.Text.Basic

/-!
# Blank characters

`isBlank` decides the Unicode property White_Space, which twenty-five characters have.
`Text.strip` removes the blank characters of a text, `Text.trim` only those at its two ends.
-/

namespace Reckoner

/-- A character is blank if it has the Unicode property White_Space. -/
def isBlank (c : Char) : Bool :=
  let n := c.toNat
  (0x9 ≤ n && n ≤ 0xD) || n == 0x20 || n == 0x85 || n == 0xA0 || n == 0x1680
    || (0x2000 ≤ n && n ≤ 0x200A) || n == 0x2028 || n == 0x2029 || n == 0x202F || n == 0x205F
    || n == 0x3000

namespace Text

/-- The text without its blank characters. -/
def strip (s : Text) : Text :=
  s.filter fun c => !isBlank c

@[simp]
theorem strip_nil :
  strip [] = []
  := rfl

/-- Two texts one after the other are stripped each by itself. -/
@[simp]
theorem strip_append (s t : Text) :
  strip (s ++ t) = strip s ++ strip t
  := by
  simp [strip]

/-- The characters of a stripped text are those of the text that are not blank. -/
theorem mem_strip {c : Char} {s : Text} :
  c ∈ strip s ↔ c ∈ s ∧ isBlank c = false
  := by
  simp [strip]

/-- A text is not changed by stripping if and only if none of its characters is blank. -/
theorem strip_eq_self_iff {s : Text} :
  strip s = s ↔ ∀ c ∈ s, isBlank c = false
  := by
  simp [strip]

/-- There is nothing left to strip in a stripped text. -/
@[simp]
theorem strip_strip (s : Text) :
  strip (strip s) = strip s
  := by
  simp [strip]

/-- The text without the blank characters at its start. -/
def trimStart (s : Text) : Text :=
  s.dropWhile isBlank

/-- The text without the blank characters at its end. -/
def trimEnd (s : Text) : Text :=
  (trimStart s.reverse).reverse

/-- The text without the blank characters at its two ends. -/
def trim (s : Text) : Text :=
  trimEnd (trimStart s)

end Text

end Reckoner
