import Reckoner.Expression.Error
import Reckoner.Number.Binary

/-!
# Operators

The four binary operators, each with its symbol and with its precedence, additive or
multiplicative. `Operator.apply` is their meaning, in which a division by either zero is an error.
-/

namespace Reckoner

/-- The two classes of operators. Multiplicative operators bind more tightly. -/
inductive Precedence where
  | additive
  | multiplicative
deriving DecidableEq

/-- The binary operators. -/
inductive Operator where
  | add
  | sub
  | mul
  | div
deriving DecidableEq

namespace Operator

/-- The character that stands for the operator. -/
def symbol : Operator → Char
  | add => '+'
  | sub => '-'
  | mul => '*'
  | div => '/'

/-- The operator for which a character stands, if any. -/
def ofChar? : Char → Option Operator
  | '+' => some add
  | '-' => some sub
  | '*' => some mul
  | '/' => some div
  | _ => none

/-- An operator is recognized by its symbol. -/
@[simp]
theorem ofChar?_symbol (o : Operator) :
  ofChar? o.symbol = some o
  := by
  cases o <;> rfl

theorem eq_symbol_of_ofChar? {c : Char} {o : Operator} (h : ofChar? c = some o) :
  c = o.symbol
  := by
  unfold ofChar? at h
  split at h <;> cases h <;> rfl

/-- The class to which the operator belongs. -/
def precedence : Operator → Precedence
  | add | sub => .additive
  | mul | div => .multiplicative

/-- The result of the operator on two numbers. -/
def apply (o : Operator) (left right : Number) : Except ReductionError Number :=
  match o with
  | add => .ok (left + right)
  | sub => .ok (left - right)
  | mul => .ok (left * right)
  | div => if right == 0.0 then .error .divisionByZero else .ok (left / right)

end Operator

end Reckoner
