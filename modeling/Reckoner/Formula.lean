import Reckoner.Expression.Reduction
import Reckoner.Expression.Substitution

/-!
# Formulas

A `Formula` is an expression without blank characters together with the values that its variables
have so far and the way in which they are substituted. `Formula.evaluate` substitutes the values
and reduces the result. The expression need not be valid, nor need all its variables have values;
it is left to the reduction to fail.
-/

namespace Reckoner

/-- An expression with values for variables. -/
structure Formula where
  expression : Text
  bindings : Bindings
  mode : Mode
  /-- The expression has no blank characters. -/
  strip_expression : expression.strip = expression

namespace Formula

/-- The formula of an expression, without values. -/
def ofText (mode : Mode) (s : Text) : Formula :=
  ⟨s.strip, .empty, mode, Text.strip_strip s⟩

/-- The formula in which a name has a value. -/
def assign (f : Formula) (name : Text) (value : Number) : Formula :=
  { f with bindings := f.bindings.insert name value }

/-- The value of a name, if it has one. -/
def value? (f : Formula) (name : Text) : Option Number :=
  f.bindings.get? name

/-- The value of the formula. -/
def evaluate (f : Formula) : Except ReductionError Number :=
  reduce (substitute f.mode f.bindings f.expression)

/-- Whether two formulas have the same expression, mode and names, and equal values. -/
def agree (f g : Formula) : Bool :=
  f.expression == g.expression && f.mode == g.mode && f.bindings.agree g.bindings

end Formula

end Reckoner
