import Reckoner.Expression.Lexeme

/-!
# Validity

`isValid` is the check that an expression passes before it is evaluated: its parentheses match and
no two operators follow each other immediately. The check reads the tokens, so blank characters do
not count, while a character that has no place in an expression separates two operators. What
passes need not have a value.
-/

namespace Reckoner

/-- Whether the parentheses match after a start that leaves `depth` of them open: none closes that
is not open, and none is open at the end. -/
def parenthesesMatch : Nat → List Token → Bool
  | depth, [] => depth == 0
  | depth, .leftParen :: rest => parenthesesMatch (depth + 1) rest
  | 0, .rightParen :: _ => false
  | depth + 1, .rightParen :: rest => parenthesesMatch depth rest
  | depth, _ :: rest => parenthesesMatch depth rest

/-- Whether no operator follows another operator immediately. -/
def operatorsApart : List Token → Bool
  | a :: b :: rest => !(a.isOperator && b.isOperator) && operatorsApart (b :: rest)
  | _ => true

/-- Whether the parentheses of the text match and its operators are apart. -/
def isValid (s : Text) : Bool :=
  parenthesesMatch 0 (tokens s) && operatorsApart (tokens s)

end Reckoner
