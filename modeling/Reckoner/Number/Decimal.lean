import Reckoner.Number.Binary
import Reckoner.Text.Basic

/-!
# Decimal numbers

A `Decimal` is a coefficient and a power of ten that scales it. `Decimal.pattern` is the pattern
of the binary number nearest to a decimal, and `Decimal.shortest` finds for a finite pattern the
decimal with the fewest digits whose nearest binary number has that pattern. Of several such
decimals it takes the one closest to the binary number, and of two equally close ones the greater.

The magnitude of a pattern is a multiple of 10 to the power -1074. The decimals with the unit 10
to the power `j - 1074` form a grid, and if any of them has the given pattern then so does one of
the two neighbours of the magnitude on the grid. The search therefore goes through the grids from
the coarsest one on and looks at two decimals of each.
-/

namespace Reckoner

/-- The number `coefficient` times 10 to the power `exponent`. -/
structure Decimal where
  coefficient : Nat
  exponent : Int
deriving DecidableEq

namespace Decimal

/-- The decimal digits of the coefficient, `0` for zero. -/
def digits (d : Decimal) : Text :=
  Nat.toDigits 10 d.coefficient

/-- The number of units of 2 to the power -1074 as a fraction. -/
def units (d : Decimal) : Nat × Nat :=
  match d.exponent with
  | .ofNat e => (d.coefficient * Nat.pow 10 e * Nat.pow 2 1074, 1)
  | .negSucc e => (d.coefficient * Nat.pow 2 1074, Nat.pow 10 (e + 1))

/-- The pattern of the binary number nearest to the decimal. A decimal from 10 to the power 400 on
is infinite and one below 10 to the power -400 is zero, whatever its exponent, so that no great
power of ten is computed for them. -/
def pattern (d : Decimal) : Nat :=
  if d.coefficient = 0 then 0
  else if 400 ≤ d.exponent then Number.infinity
  else if d.exponent + (d.coefficient.log2 + 1) < -400 then 0
  else Number.nearest d.units.1 d.units.2

/-- The number of units of 10 to the power -1074 in a unit of 2 to the power -1074. -/
def unitsPerUnit : Nat := Nat.pow 5 1074

/-- The point of the grid of multiples of 10 to the power `j` next to `x` that has pattern `p`: of
the two neighbours of `x` the one below if only it has the pattern or if it is closer. -/
def gridPoint? (p x j : Nat) : Option Nat :=
  let width := Nat.pow 10 j
  let below := x / width
  let above := below + 1
  let belowFits := Number.nearest (below * width) unitsPerUnit = p
  let aboveFits := Number.nearest (above * width) unitsPerUnit = p
  if belowFits ∧ (aboveFits → 2 * (x % width) < width) then some below
  else if aboveFits then some above
  else none

/-- The decimal on the first of the grids from that of 10 to the power `j` down to that of tens on
which `point?` finds a point, and otherwise `x` on the grid of ones. -/
def search (point? : Nat → Option Nat) (x : Nat) : Nat → Decimal
  | 0 => ⟨x, -1074⟩
  | j + 1 =>
    match point? (j + 1) with
    | some n => ⟨n, (j + 1 : Nat) - 1074⟩
    | none => search point? x j

/-- A number of decimal digits that suffices for `x`, which has `x.log2 + 1` binary digits:
0.30103 is a little more than the decimal logarithm of 2. -/
def digitBound (x : Nat) : Nat :=
  (x.log2 + 1) * 30103 / 100000 + 1

/-- The decimal with the fewest digits whose nearest binary number has the finite pattern `p`. -/
def shortest (p : Nat) : Decimal :=
  if p = 0 then ⟨0, 0⟩
  else
    let x := Number.magnitude p * unitsPerUnit
    search (gridPoint? p x) x (digitBound x)

end Decimal

end Reckoner
