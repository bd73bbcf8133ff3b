/-!
# Texts

A text is a list of characters. `Text.utf8Length` is the number of bytes of its UTF-8 encoding,
the measure in which positions in a text and the size of written output are counted. Texts are
ordered character by character, a character by its code point, and a proper beginning of a text
comes before it; this is also the order of the encodings. `Text.splitOnce?` cuts a text at the
first occurrence of a character.
-/

namespace Reckoner

/-- A text is the list of its characters. -/
abbrev Text := List Char

namespace Text

/-- The number of bytes of the UTF-8 encoding of a text. -/
def utf8Length : Text → Nat
  | [] => 0
  | c :: s => c.utf8Size + utf8Length s

@[simp]
theorem utf8Length_nil :
  utf8Length [] = 0
  := rfl

@[simp]
theorem utf8Length_cons (c : Char) (s : Text) :
  utf8Length (c :: s) = c.utf8Size + utf8Length s
  := rfl

/-- The lengths of two texts one after the other add up. -/
@[simp]
theorem utf8Length_append (s t : Text) :
  utf8Length (s ++ t) = utf8Length s + utf8Length t
  := by
  induction s with
  | nil => simp
  | cons c s ih => simp [ih, Nat.add_assoc]

/-- The parts of a text before and after the first occurrence of `mark`, if there is one. -/
def splitOnce? (mark : Char) : Text → Option (Text × Text)
  | [] => none
  | c :: s =>
    if c = mark then some ([], s)
    else (splitOnce? mark s).map fun (before, after) => (c :: before, after)

/-- A text is split at the first mark in it. -/
theorem splitOnce?_append (mark : Char) {before : Text} (after : Text) (h : mark ∉ before) :
  splitOnce? mark (before ++ mark :: after) = some (before, after)
  := by
  induction before with
  | nil => simp [splitOnce?]
  | cons c s ih =>
    rw [List.mem_cons, not_or] at h
    simp [splitOnce?, Ne.symm h.1, ih h.2]

protected theorem lt_trans {a b c : Text} (hab : a < b) (hbc : b < c) :
  a < c
  := List.lt_trans hab hbc

/-- One of two different texts comes before the other. -/
theorem lt_of_not_lt {a b : Text} (h : ¬a < b) (hne : a ≠ b) :
  b < a
  := by
  apply Decidable.byContradiction
  intro h'
  exact hne (List.le_antisymm h' h)

/-- The text with upper case ASCII letters replaced by lower case ones. -/
def asciiLower (s : Text) : Text :=
  s.map Char.toLower

end Text

end Reckoner
