import Reckoner.Number.Decimal

/-!
# Reading numbers

`Number.ofText?` reads a number. A number is an optional sign followed by `inf`, `infinity` or
`nan`, with letters of either case, or by decimal digits with an optional point somewhere among
them and an optional exponent of ten; there is at least one digit, and an exponent has at least
one of its own. The result is the nearest binary number. `Number.ofLiteral?` reads the numbers
that may stand within an expression, which consist of digits and points only.
-/

namespace Reckoner

namespace Decimal

/-- Reads a natural number, which has at least one digit. -/
def natural? (s : Text) : Option Nat :=
  if s ≠ [] ∧ s.all Char.isDigit then some (Nat.ofDigitChars 10 s 0) else none

/-- Reads a natural number with an optional sign. -/
def integer? : Text → Option Int
  | '-' :: s => (natural? s).map fun n => -(n : Int)
  | '+' :: s => (natural? s).map Int.ofNat
  | s => (natural? s).map Int.ofNat

/-- Reads an exponent after its mark. A text that is empty stands for the exponent zero. -/
def exponent? : Text → Option Int
  | [] => some 0
  | c :: s => if c = 'e' ∨ c = 'E' then integer? s else none

/-- The digits after a point at the start of a text, and what follows them. -/
def splitFraction : Text → Text × Text
  | '.' :: s => (s.takeWhile Char.isDigit, s.dropWhile Char.isDigit)
  | s => ([], s)

/-- Reads a decimal without a sign. -/
def ofText? (s : Text) : Option Decimal :=
  let whole := s.takeWhile Char.isDigit
  let (fraction, rest) := splitFraction (s.dropWhile Char.isDigit)
  if whole ++ fraction = [] then none
  else
    (exponent? rest).map fun e =>
      ⟨Nat.ofDigitChars 10 (whole ++ fraction) 0, e - fraction.length⟩

end Decimal

namespace Number

/-- Reads the pattern of a number without a sign. -/
def patternOfText? (s : Text) : Option Nat :=
  let word := s.asciiLower
  if word = "inf".toList ∨ word = "infinity".toList then some infinity
  else if word = "nan".toList then some undefined
  else (Decimal.ofText? s).map Decimal.pattern

/-- Reads a number. -/
def ofText? : Text → Option Number
  | '-' :: s => (patternOfText? s).map (ofPattern true)
  | '+' :: s => (patternOfText? s).map (ofPattern false)
  | s => (patternOfText? s).map (ofPattern false)

/-- A character is numeric if it is a decimal digit or a point. -/
def isNumeric (c : Char) : Bool :=
  c.isDigit || c == '.'

/-- Reads a number that consists of digits and at most one point. -/
def ofLiteral? (s : Text) : Option Number :=
  if s.all isNumeric then ofText? s else none

end Number

end Reckoner
