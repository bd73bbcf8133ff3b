/-!
# Binary numbers

A `Number` is a binary floating-point number of 64 bits. Its top bit is the sign, and the other 63
bits are its pattern, which determines the magnitude. A pattern below `infinity` is finite, and
its magnitude is the whole number `magnitude` of units of 2 to the power -1074; magnitudes grow
with their patterns. The pattern `infinity` stands for infinity and greater ones for no number.
`nearest` is the pattern of a fraction of units, rounded to the nearest finite magnitude with ties
to the even pattern, and to infinity from half a step beyond the greatest one.
-/

namespace Reckoner

/-- A number is a binary floating-point number of 64 bits. -/
abbrev Number := Float

namespace Number

/-- The sign bit. The patterns are the natural numbers below it. -/
def signBit : Nat := 0x8000000000000000

/-- The number of patterns for each power of two, which is 2 to the power 52. -/
def patternsPerPower : Nat := 0x10000000000000

/-- The pattern of infinity. -/
def infinity : Nat := 0x7FF0000000000000

/-- The pattern of the value that is no number. -/
def undefined : Nat := 0x7FF8000000000000

/-- The bits of a number below the sign. -/
def pattern (v : Number) : Nat :=
  v.toBits.toNat % signBit

/-- A number is negative if its sign bit is set, also as a zero. -/
def isNegative (v : Number) : Bool :=
  signBit ≤ v.toBits.toNat

/-- The number with a given sign and pattern. -/
def ofPattern (negative : Bool) (p : Nat) : Number :=
  Float.ofBits (UInt64.ofNat (if negative then signBit + p else p))

/-- The magnitude of a finite pattern in units of 2 to the power -1074. -/
def magnitude (p : Nat) : Nat :=
  if p < patternsPerPower then p
  else (patternsPerPower + p % patternsPerPower) * Nat.pow 2 (p / patternsPerPower - 1)

/-- The quotient rounded to the nearest natural number, with ties to the even one. -/
def roundDiv (num den : Nat) : Nat :=
  let quotient := num / den
  let remainder := num % den
  if 2 * remainder < den then quotient
  else if den < 2 * remainder then quotient + 1
  else quotient + quotient % 2

/-- The pattern of the magnitude nearest to `num / den` units. A magnitude with more than 53
binary digits keeps the first 53 of them, and `step` counts those that are rounded off. -/
def nearest (num den : Nat) : Nat :=
  let step := (num / den).log2 - 52
  min (step * patternsPerPower + roundDiv num (den * Nat.pow 2 step)) infinity

end Number

end Reckoner
