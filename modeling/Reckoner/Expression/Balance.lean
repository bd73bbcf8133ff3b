import Reckoner.Text.Basic

/-!
# Balance

`unclosed` counts the parentheses that a text leaves open, and is negative where it closes more
than it opens. A text is `Balanced` if no beginning of it closes more than it opens and the whole
closes all that it opens.
-/

namespace Reckoner

/-- The number of parentheses that a character opens, counted as -1 for one that it closes. -/
def opens (c : Char) : Int :=
  if c = '(' then 1 else if c = ')' then -1 else 0

/-- The number of parentheses that a text opens less the number that it closes. -/
def unclosed : Text → Int
  | [] => 0
  | c :: s => opens c + unclosed s

@[simp]
theorem unclosed_nil :
  unclosed [] = 0
  := rfl

@[simp]
theorem unclosed_cons (c : Char) (s : Text) :
  unclosed (c :: s) = opens c + unclosed s
  := rfl

/-- The parentheses left open by two texts one after the other add up. -/
@[simp]
theorem unclosed_append (s t : Text) :
  unclosed (s ++ t) = unclosed s + unclosed t
  := by
  induction s with
  | nil => simp
  | cons c s ih => simp [ih, Int.add_assoc]

/-- A text is balanced if each parenthesis that it opens is closed later in it, and conversely. -/
def Balanced (s : Text) : Prop :=
  (∀ start, start <+: s → 0 ≤ unclosed start) ∧ unclosed s = 0

end Reckoner
