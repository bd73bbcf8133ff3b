import Reckoner.Text.Basic

/-!
# Errors

`ReductionError` lists why a text does not reduce to a number, and `EvaluationError` why an
expression with values for its variables does not. Both have a `message`, in which texts stand as
they are, without quoting.
-/

namespace Reckoner

/-- The number of levels beyond the first to which a reduction may descend. -/
def maxDepth : Nat := 1024

/-- The reasons for which the reduction of a text fails. -/
inductive ReductionError where
  /-- The divisor is zero. -/
  | divisionByZero
  /-- A piece of the text that should be a number is none. -/
  | malformed (piece : Text)
  /-- The text has parts more than `maxDepth` levels below the whole. -/
  | nestingTooDeep
deriving DecidableEq

/-- The text that tells a user of the error. -/
def ReductionError.message : ReductionError → Text
  | divisionByZero => "Division by zero.".toList
  | malformed piece => "Malformed expression: '".toList ++ piece ++ "'.".toList
  | nestingTooDeep =>
    "Expression is nested too deeply: more than ".toList ++ Nat.toDigits 10 maxDepth
      ++ " levels.".toList

/-- The reasons for which the evaluation of an expression fails. -/
inductive EvaluationError where
  /-- The parentheses of the expression do not match or two of its operators are adjacent. -/
  | invalidExpression (expression : Text)
  /-- The expression has a variable without a value. -/
  | missingVariable (name : Text)
  /-- The expression with the values in place does not reduce to a number. -/
  | reduction (cause : ReductionError)
deriving DecidableEq

/-- The text that tells a user of the error. -/
def EvaluationError.message : EvaluationError → Text
  | invalidExpression expression =>
    "The expression '".toList ++ expression
      ++ "' is malformed: check parentheses and operators.".toList
  | missingVariable name => "No value was given for variable '".toList ++ name ++ "'.".toList
  | reduction cause => cause.message

/-- The error of which an error is the consequence. -/
def EvaluationError.cause? : EvaluationError → Option ReductionError
  | reduction cause => some cause
  | _ => none

end Reckoner
