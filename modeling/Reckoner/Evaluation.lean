import Reckoner.Expression.Validity
import Reckoner.Expression.Variables
import Reckoner.Formula

/-!
# Evaluation

`evaluate` is the evaluation of an expression with values for its variables: the expression has to
be valid, each of its variables has to have a value, and the formula in which they have these
values is evaluated. Values of other names have no part in it. The first of these steps that fails
determines the error, and so does the first variable without a value.
-/

namespace Reckoner

/-- The formula in which some names have the values of a table. -/
def assignAll (values : Bindings) (f : Formula) : List Text → Except EvaluationError Formula
  | [] => .ok f
  | name :: rest =>
    match values.get? name with
    | some v => assignAll values (f.assign name v) rest
    | none => .error (.missingVariable name)

/-- The value of an expression with values for its variables. -/
def evaluate (mode : Mode) (values : Bindings) (s : Text) : Except EvaluationError Number :=
  if isValid s then do
    let f ← assignAll values (.ofText mode s) (variableNames s)
    f.evaluate.mapError .reduction
  else .error (.invalidExpression s)

end Reckoner
