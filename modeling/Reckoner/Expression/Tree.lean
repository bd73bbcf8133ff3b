import Reckoner.Expression.Balance
import Reckoner.Expression.Reduction
import Reckoner.Text.Letter

/-!
# Expression trees

A `Tree` is the structure of an expression: a number, a variable, a tree in parentheses, or an
operator between two trees. Its `spelling` is the expression without blank characters, its
`height` the number of levels below the whole, and its `value` the result of evaluating it from
left to right.

`Tree.IsGrammatical` says which trees an expression can have: numbers and names have the right
form, an operand that binds less tightly than its operator is in parentheses, and operators of the
same precedence group to the left.
-/

namespace Reckoner

/-- The structure of an expression. -/
inductive Tree where
  | number (text : Text)
  | name (text : Text)
  | parenthesized (inner : Tree)
  | binary (o : Operator) (left right : Tree)
deriving DecidableEq

/-- A text is a literal if it consists of digits and points, with at least one digit and at most
one point. -/
def IsLiteral (s : Text) : Prop :=
  (∀ c ∈ s, Number.isNumeric c) ∧ (∃ c ∈ s, c.isDigit) ∧ s.count '.' ≤ 1

/-- A text is a name if it is not empty and consists of letters. -/
def IsName (s : Text) : Prop :=
  s ≠ [] ∧ ∀ c ∈ s, isLetter c

instance : DecidablePred IsLiteral := fun s =>
  decidable_of_iff (s.all Number.isNumeric ∧ s.any Char.isDigit ∧ s.count '.' ≤ 1)
    (and_congr List.all_eq_true (and_congr_left fun _ => List.any_eq_true))

instance : DecidablePred IsName := fun s =>
  decidable_of_iff (s ≠ [] ∧ s.all isLetter) (and_congr_right fun _ => List.all_eq_true)

namespace Tree

/-- The expression of the tree, without blank characters. -/
def spelling : Tree → Text
  | number text => text
  | name text => text
  | parenthesized inner => '(' :: inner.spelling ++ [')']
  | binary o left right => left.spelling ++ o.symbol :: right.spelling

/-- The number of levels below the whole. -/
def height : Tree → Nat
  | number _ => 0
  | name _ => 0
  | parenthesized inner => inner.height + 1
  | binary _ left right => max left.height right.height + 1

/-- The names that occur in the tree. -/
def names : Tree → List Text
  | number _ => []
  | name text => [text]
  | parenthesized inner => inner.names
  | binary _ left right => left.names ++ right.names

/-- The result of evaluating the tree from left to right. A name without a value is an error. -/
def value (values : Text → Option Number) : Tree → Except ReductionError Number
  | number text => literal text
  | name text =>
    match values text with
    | some v => .ok v
    | none => .error (.malformed text)
  | parenthesized inner => inner.value values
  | binary o left right => do
    let l ← left.value values
    let r ← right.value values
    o.apply l r

/-- The precedence of the operator of the tree, if it has one that no parentheses enclose. -/
def precedence? : Tree → Option Precedence
  | binary o _ _ => some o.precedence
  | _ => none

/-- A tree is grammatical if its numbers and names have the right form and its operands bind as
tightly as its operators require: the right operand more tightly than the operator and the left
one at least as tightly. -/
def IsGrammatical : Tree → Prop
  | number text => IsLiteral text
  | name text => IsName text
  | parenthesized inner => inner.IsGrammatical
  | binary o left right =>
    left.IsGrammatical ∧ right.IsGrammatical
      ∧ match o.precedence with
        | .additive => right.precedence? ≠ some .additive
        | .multiplicative => left.precedence? ≠ some .additive ∧ right.precedence? = none

/-- Whether a tree is grammatical can be decided. -/
def decideGrammatical : (t : Tree) → Decidable t.IsGrammatical
  | number text => inferInstanceAs (Decidable (IsLiteral text))
  | name text => inferInstanceAs (Decidable (IsName text))
  | parenthesized inner => inner.decideGrammatical
  | binary .add left right | binary .sub left right =>
    @instDecidableAnd _ _ left.decideGrammatical (@instDecidableAnd _ _ right.decideGrammatical
      (inferInstanceAs (Decidable (right.precedence? ≠ some .additive))))
  | binary .mul left right | binary .div left right =>
    @instDecidableAnd _ _ left.decideGrammatical (@instDecidableAnd _ _ right.decideGrammatical
      (inferInstanceAs
        (Decidable (left.precedence? ≠ some .additive ∧ right.precedence? = none))))

instance : DecidablePred IsGrammatical := decideGrammatical

end Tree

end Reckoner
