import Reckoner.Expression.Split
import Reckoner.Number.Reading

/-!
# Reduction

`reduce` computes the value of a text in which only numbers, operators and parentheses are left. A
text that an operator outside all parentheses divides is the result of the operator on the values
of its two sides; additive operators are looked for before multiplicative ones, and the last of a
class before the others, so that operators of one class group to the left. A text without such an
operator but in parentheses has the value of what they enclose, and any other text has to be a
number. Of two sides that fail, the error of the left one is the result.

The parts of a text are one level below the text, and a reduction descends at most `maxDepth`
levels.
-/

namespace Reckoner

/-- What the outermost parentheses of a text enclose, judged by its first and last character. -/
def enclosed? : Text → Option Text
  | '(' :: s => if s.getLast? = some ')' then some s.dropLast else none
  | _ => none

/-- The split that the reduction of a text starts with. -/
def topSplit? (s : Text) : Option Split :=
  (split? .additive s).orElse fun _ => split? .multiplicative s

/-- The value of a text that has to be a number. -/
def literal (s : Text) : Except ReductionError Number :=
  match Number.ofLiteral? s with
  | some v => .ok v
  | none => .error (.malformed s)

/-- The value of a text, found on the given number of levels of which the text is the first. -/
def reduceWithin : Nat → Text → Except ReductionError Number
  | 0, _ => .error .nestingTooDeep
  | levels + 1, s =>
    match topSplit? s with
    | some x => do
      let left ← reduceWithin levels x.left
      let right ← reduceWithin levels x.right
      x.operator.apply left right
    | none =>
      match enclosed? s with
      | some inner => reduceWithin levels inner
      | none => literal s

/-- The value of a text that is a number of levels below the whole. -/
def reduceAt (depth : Nat) (s : Text) : Except ReductionError Number :=
  reduceWithin (maxDepth + 1 - depth) s

/-- The value of a text. -/
def reduce (s : Text) : Except ReductionError Number :=
  reduceAt 0 s

end Reckoner
