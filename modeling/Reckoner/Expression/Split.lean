import Reckoner.Expression.Balance
import Reckoner.Expression.Operator

/-!
# Splitting at an operator

`split? p s` divides the text `s` at the last operator of precedence `p` behind which `s` closes as
many parentheses as it opens. It looks at the text behind the operator only, and so it also
divides texts whose parentheses do not match.
-/

namespace Reckoner

/-- An operator with the texts on its two sides. -/
structure Split where
  left : Text
  operator : Operator
  right : Text
deriving DecidableEq

/-- The whole text of a split. -/
def Split.text (x : Split) : Text :=
  x.left ++ x.operator.symbol :: x.right

/-- The number of parentheses that a text leaves open, together with the last split of it at an
operator of precedence `p` that no parentheses enclose. -/
def scanSplit (p : Precedence) : Text → Int × Option Split
  | [] => (0, none)
  | c :: s =>
    let (depth, found) := scanSplit p s
    (opens c + depth,
      match found, Operator.ofChar? c with
      | some x, _ => some { x with left := c :: x.left }
      | none, some o => if o.precedence = p ∧ depth = 0 then some ⟨[], o, s⟩ else none
      | none, none => none)

/-- The split of a text at the last operator of precedence `p` that no parentheses enclose. -/
def split? (p : Precedence) (s : Text) : Option Split :=
  (scanSplit p s).2

/-- The scan for a split counts the parentheses that the text leaves open. -/
theorem scanSplit_fst (p : Precedence) (s : Text) :
  (scanSplit p s).1 = unclosed s
  := by
  induction s with
  | nil => rfl
  | cons c s ih => simp [scanSplit, ih]

@[simp]
theorem split?_nil (p : Precedence) :
  split? p [] = none
  := rfl

theorem split?_cons (p : Precedence) (c : Char) (s : Text) :
  split? p (c :: s) =
    match split? p s, Operator.ofChar? c with
    | some x, _ => some { x with left := c :: x.left }
    | none, some o => if o.precedence = p ∧ unclosed s = 0 then some ⟨[], o, s⟩ else none
    | none, none => none
  := by
  simp only [split?, scanSplit, scanSplit_fst]

/-- A split of a text consists of the whole text. -/
theorem text_of_split? {p : Precedence} {s : Text} {x : Split} (h : split? p s = some x) :
  x.text = s
  := by
  induction s generalizing x with
  | nil => simp at h
  | cons c s ih =>
    rw [split?_cons] at h
    split at h
    · rename_i y _ hy
      cases h
      have := ih hy
      simp_all [Split.text]
    · rename_i o _ ho
      split at h
      · cases h
        simp [Split.text, Operator.eq_symbol_of_ofChar? ho]
      · simp at h
    · simp at h

end Reckoner
