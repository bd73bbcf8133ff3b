import Reckoner.Proofs.Evaluation.Precedence
import Reckoner.Proofs.Expression.Validity

/-!
# Blank characters in an evaluation

An evaluation checks the expression as it is given and looks for names in it, but reduces it without
its blank characters. The check does not depend on these at all (`isValid_strip`), and the names do
so only where blank characters separate two letters (`variableNames_strip`). In all other places
they have no part in an evaluation, except that an error carries the expression as it was given.
-/

namespace Reckoner

variable {s : Text}

/-- Blank characters that do not separate two letters do not count for the names. -/
theorem variableNames_strip (hs : LettersTogether s) :
  variableNames s.strip = variableNames s
  := by
  change (nameRuns s.strip).foldr insertName [] = (nameRuns s).foldr insertName []
  rw [nameRuns_strip hs]

/-- The error with a given expression in it, if it is about an expression. -/
def EvaluationError.withExpression (s : Text) : EvaluationError → EvaluationError
  | invalidExpression _ => invalidExpression s
  | missingVariable name => missingVariable name
  | reduction cause => reduction cause

/-- The errors of a valid expression are not about the expression. -/
theorem mapError_withExpression (hvalid : isValid s) (mode : Mode) (values : Bindings)
    (expression : Text) :
  (evaluate mode values s).mapError (.withExpression expression) = evaluate mode values s
  := by
  cases hevaluate : evaluate mode values s with
  | ok v => rfl
  | error e =>
    rcases (evaluate_eq_error_iff hvalid).mp hevaluate with ⟨name, -, rfl⟩ | ⟨b, cause, -, -, rfl⟩
    · rfl
    · rfl

/-- Blank characters that do not stand between letters do not change how a valid expression is
evaluated. -/
theorem evaluate_strip_of_isValid (hs : LettersTogether s) (hvalid : isValid s) (mode : Mode)
    (values : Bindings) :
  evaluate mode values s.strip = evaluate mode values s
  := by
  have hvalid' : isValid s.strip := by rw [isValid_strip, hvalid]
  rw [evaluate_eq hvalid', evaluate_eq hvalid, variableNames_strip hs, Text.strip_strip]

/-- Blank characters that do not separate two letters have no part in an evaluation: the expression
without them has the same names, and the outcome with any values and in both modes is the same but
for the expression that an error carries, which is the one that was given. -/
theorem evaluate_strip (hs : LettersTogether s) :
  variableNames s = variableNames s.strip
    ∧ ∀ mode values, evaluate mode values s
      = (evaluate mode values s.strip).mapError (.withExpression s)
  := by
  use (variableNames_strip hs).symm
  intro mode values
  cases hvalid : isValid s with
  | true =>
    have hvalid' : isValid s.strip := by rw [isValid_strip, hvalid]
    rw [mapError_withExpression hvalid', evaluate_strip_of_isValid hs hvalid]
  | false =>
    have hvalid' : isValid s.strip = false := by rw [isValid_strip, hvalid]
    rw [evaluate_of_not_isValid hvalid, evaluate_of_not_isValid hvalid']
    rfl

/-- Blank characters within a number and around a foreign character. -/
theorem evaluate_strip_gaps :
  evaluate .token (.ofList [(['a'], 1)]) ['1', ' ', '2', '+', '\t', 'a'] = .ok 13
    ∧ variableNames ['1', ' ', '2', '+', '\t', 'a'] = [['a']]
    ∧ evaluate .textual .empty ['2', ' ', '%', '\n', '3']
      = .error (.reduction (.malformed ['2', '%', '3']))
    ∧ evaluate .textual .empty ['(', ' ', '1'] = .error (.invalidExpression ['(', ' ', '1'])
  := by
  refine ⟨?_, ?_, ?_, ?_⟩
  · rw [(evaluate_strip (lettersTogether_of_countP_le_one (by decide +kernel))).2]
    decide +kernel
  · rw [(evaluate_strip (lettersTogether_of_countP_le_one (by decide +kernel))).1]
    decide +kernel
  · rw [(evaluate_strip (lettersTogether_of_countP_le_one (by decide +kernel))).2]
    decide +kernel
  · rw [(evaluate_strip (lettersTogether_of_countP_le_one (by decide +kernel))).2]
    decide +kernel

/-- Blank characters between two letters do count. -/
example : variableNames ['a', ' ', 'b'] ≠ variableNames (Text.strip ['a', ' ', 'b']) := by
  decide +kernel

end Reckoner
