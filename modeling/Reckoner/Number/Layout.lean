import Reckoner.Number.Decimal

/-!
# Written numbers

A number is written with the digits of the shortest decimal that reads back as the number.
`Number.compact` is its standard text, in positional notation and without a point if there is no
fraction. `Number.spell` puts a point and a zero behind the standard text of a whole number, so that
an expression can contain the result. `Number.display` is what a user sees: positional notation with
at least one place for zero and for magnitudes from 0.0001 on and below 10 to the power 16, and
scientific notation for others. A negative number, also a negative zero, has a minus sign in front.
What is infinite or no number is written as a word.
-/

namespace Reckoner

namespace Decimal

/-- The digits on the two sides of the point in positional notation. There is at least one in front
of it, and there may be none behind it. -/
def sides (d : Decimal) : Text × Text :=
  let ds := d.digits
  match d.exponent with
  | .ofNat e => (ds ++ List.replicate e '0', [])
  | .negSucc e =>
    if ds.length ≤ e + 1 then (['0'], List.replicate (e + 1 - ds.length) '0' ++ ds)
    else (ds.take (ds.length - (e + 1)), ds.drop (ds.length - (e + 1)))

/-- Positional notation with a point only if there are digits behind it. -/
def compact (d : Decimal) : Text :=
  if d.sides.2 = [] then d.sides.1 else d.sides.1 ++ '.' :: d.sides.2

/-- Positional notation with at least one digit on each side of the point. -/
def positional (d : Decimal) : Text :=
  d.sides.1 ++ '.' :: if d.sides.2 = [] then ['0'] else d.sides.2

/-- The text of an integer, without a sign if it is not negative. -/
def integerText : Int → Text
  | .ofNat n => Nat.toDigits 10 n
  | .negSucc n => '-' :: Nat.toDigits 10 (n + 1)

/-- Scientific notation with one digit before the point, and no point after a single digit. -/
def scientific (d : Decimal) : Text :=
  let ds := d.digits
  let fraction := ds.drop 1
  ds.take 1 ++ (if fraction = [] then [] else '.' :: fraction)
    ++ 'e' :: integerText (d.exponent + fraction.length)

end Decimal

namespace Number

/-- A pattern is plain if its magnitude is zero, or at least 10 to the power -4 and less than 10
to the power 16. -/
def isPlain (p : Nat) : Bool :=
  let x := magnitude p * Decimal.unitsPerUnit
  p = 0 || (Nat.pow 10 1070 ≤ x && x < Nat.pow 10 1090)

/-- The text of a number whose finite patterns `layout` writes. -/
def write (layout : Nat → Text) (v : Number) : Text :=
  if infinity < v.pattern then "NaN".toList
  else (if v.isNegative then ['-'] else [])
    ++ if v.pattern = infinity then "inf".toList else layout v.pattern

/-- The standard text of a number, in which a whole number has no point. -/
def compact (v : Number) : Text :=
  v.write fun p => (Decimal.shortest p).compact

/-- The text that stands for a number within an expression. It is the standard text, and a finite
number that has no point in it gets one with a zero behind it. -/
def spell (v : Number) : Text :=
  let text := v.compact
  if v.pattern < infinity ∧ '.' ∉ text then text ++ ['.', '0'] else text

/-- The text that shows a number to a user. -/
def display (v : Number) : Text :=
  v.write fun p =>
    if isPlain p then (Decimal.shortest p).positional else (Decimal.shortest p).scientific

end Number

end Reckoner
