import Mathlib.Tactic.Common
import Reckoner.Proofs.Expression.Descent

/-!
# Texts put together

The outcome of a reduction is made of the outcomes of the parts from which a text is put together,
also where the parts have none but errors. `Operator.combine` is the outcome of an operator on two
outcomes, in which the error of the left one counts first. A balanced text is a right operand of an
operator if no operator that binds as loosely stands outside its parentheses. This can be told by
counting the parentheses from the start (`HasOuterOperator`) although a text is split from its end
(`split?_eq_none_iff_not_hasOuterOperator`).
-/

namespace Reckoner

variable {depth : Nat} {s left right inner : Text} {x : Split} {o : Operator} {p : Precedence}

/-! ### Operators outside parentheses -/

/-- An operator of a precedence stands outside the parentheses of a text: in front of it as many are
opened as are closed. -/
def HasOuterOperator (p : Precedence) (s : Text) : Prop :=
  ∃ left right, ∃ o : Operator,
    s = left ++ o.symbol :: right ∧ o.precedence = p ∧ unclosed left = 0

/-- If all parentheses match, those in front of an operator match if and only if those behind it do.
-/
theorem unclosed_left_eq_zero_iff (h : unclosed (left ++ o.symbol :: right) = 0) :
  unclosed left = 0 ↔ unclosed right = 0
  := by
  rw [unclosed_append, unclosed_cons, opens_symbol] at h
  omega

/-- A text in which all parentheses match does not split if and only if no operator stands outside
of them. -/
theorem split?_eq_none_iff_not_hasOuterOperator (hs : unclosed s = 0) :
  split? p s = none ↔ ¬HasOuterOperator p s
  := by
  rw [split?_eq_none_iff]
  constructor
  · rintro h ⟨left, right, o, rfl, hp, hleft⟩
    apply h left o right rfl hp
    apply (unclosed_left_eq_zero_iff hs).mp hleft
  · rintro h left o right rfl hp hright
    apply h
    use left, right, o, rfl, hp
    apply (unclosed_left_eq_zero_iff hs).mpr hright

/-- A balanced text without operators outside its parentheses is not split. -/
theorem Balanced.topSplit?_eq_none (hs : Balanced s) (h : ∀ p, ¬HasOuterOperator p s) :
  topSplit? s = none
  := by
  rw [topSplit?_eq_none_iff, split?_eq_none_iff_not_hasOuterOperator hs.2,
    split?_eq_none_iff_not_hasOuterOperator hs.2]
  use h .additive, h .multiplicative

/-! ### Outcomes -/

/-- The outcome of an operator on the outcomes of its two sides. If both are errors, that of the
left side counts. -/
def Operator.combine (o : Operator) :
    Except ReductionError Number → Except ReductionError Number → Except ReductionError Number
  | .error e, _ => .error e
  | .ok _, .error e => .error e
  | .ok l, .ok r => o.apply l r

/-- To reduce one side after the other is to combine their outcomes. -/
theorem Operator.bind_bind_eq_combine (o : Operator) (l r : Except ReductionError Number) :
  (do
    let a ← l
    let b ← r
    o.apply a b) = o.combine l r
  := by
  cases l with
  | error e => rfl
  | ok a =>
    cases r with
    | error e => rfl
    | ok b => rfl

/-- The outcome of a text that is split is that of its operator on the outcomes of the two sides one
level down. -/
theorem reduceAt_of_topSplit? (hdepth : depth ≤ maxDepth) (h : topSplit? s = some x) :
  reduceAt depth s
    = x.operator.combine (reduceAt (depth + 1) x.left) (reduceAt (depth + 1) x.right)
  := by
  rw [reduceAt, Nat.succ_sub hdepth, reduceWithin_of_topSplit? h, Operator.bind_bind_eq_combine,
    reduceAt, reduceAt, Nat.add_sub_add_right]

/-- The outcome of a text in parentheses that is not split is that of what they enclose one level
down. -/
theorem reduceAt_of_enclosed? (hdepth : depth ≤ maxDepth) (h : topSplit? s = none)
    (hinner : enclosed? s = some inner) :
  reduceAt depth s = reduceAt (depth + 1) inner
  := by
  rw [reduceAt, Nat.succ_sub hdepth, reduceWithin_of_enclosed? h hinner, reduceAt,
    Nat.add_sub_add_right]

/-- One level further down the outcome is the same, unless the levels are used up. -/
theorem reduceAt_succ (depth : Nat) (s : Text) :
  reduceAt (depth + 1) s = reduceAt depth s ∨ reduceAt (depth + 1) s = .error .nestingTooDeep
  := by
  rw [reduceAt_eq (depth + 1)]
  split
  · rename_i hle
    left
    rw [reduceAt_eq, if_pos (by omega)]
  · right
    rfl

/-! ### Operands and parentheses -/

/-- A sum or difference is reduced at an operator behind which no other additive one is outside the
parentheses. -/
theorem reduceAt_additive (hdepth : depth ≤ maxDepth) (ho : o.precedence = .additive)
    (hright : Balanced right) (hnone : ¬HasOuterOperator .additive right) (left : Text) :
  reduceAt depth (left ++ o.symbol :: right)
    = o.combine (reduceAt (depth + 1) left) (reduceAt (depth + 1) right)
  := by
  apply reduceAt_of_topSplit? hdepth (x := ⟨left, o, right⟩)
  apply topSplit?_of_additive left ho hright.2
  apply (split?_eq_none_iff_not_hasOuterOperator hright.2).mpr hnone

/-- A product or quotient is reduced at its operator if the left side has no additive operator
outside its parentheses and the right side has none at all. -/
theorem reduceAt_multiplicative (hdepth : depth ≤ maxDepth) (ho : o.precedence = .multiplicative)
    (hleft : Balanced left) (hnoneLeft : ¬HasOuterOperator .additive left)
    (hright : Balanced right) (hnone : ∀ p, ¬HasOuterOperator p right) :
  reduceAt depth (left ++ o.symbol :: right)
    = o.combine (reduceAt (depth + 1) left) (reduceAt (depth + 1) right)
  := by
  apply reduceAt_of_topSplit? hdepth (x := ⟨left, o, right⟩)
  apply topSplit?_of_multiplicative ho _ hright.2 (hright.topSplit?_eq_none hnone)
  apply (split?_eq_none_iff_not_hasOuterOperator hleft.2).mpr hnoneLeft

/-- A balanced text in parentheses is reduced one level down. -/
theorem reduceAt_parenthesized (hdepth : depth ≤ maxDepth) (hinner : Balanced inner) :
  reduceAt depth ('(' :: inner ++ [')']) = reduceAt (depth + 1) inner
  := by
  apply reduceAt_of_enclosed? hdepth _ (enclosed?_parenthesized inner)
  rw [topSplit?_eq_none_iff]
  use split?_parenthesized hinner, split?_parenthesized hinner

/-- Reduction is compositional, whether or not the parts of a text belong to the grammar. The
outcome for any text with an additive operator and a balanced operand behind it, in which no
additive operator stands outside parentheses, combines those of the two sides one level further
down. So it is with a multiplicative operator if the left side is an operand of this kind and no
operator at all stands outside parentheses on the right. A balanced text in parentheses has the
outcome that it has one level further down, which is its own unless the levels are used up. -/
theorem reduceAt_compositional (hdepth : depth ≤ maxDepth) :
  (∀ left right, ∀ o : Operator, o.precedence = .additive → Balanced right →
      ¬HasOuterOperator .additive right →
      reduceAt depth (left ++ o.symbol :: right)
        = o.combine (reduceAt (depth + 1) left) (reduceAt (depth + 1) right))
    ∧ (∀ left right, ∀ o : Operator, o.precedence = .multiplicative →
      Balanced left → ¬HasOuterOperator .additive left →
      Balanced right → (∀ p, ¬HasOuterOperator p right) →
      reduceAt depth (left ++ o.symbol :: right)
        = o.combine (reduceAt (depth + 1) left) (reduceAt (depth + 1) right))
    ∧ ∀ inner, Balanced inner →
      reduceAt depth ('(' :: inner ++ [')']) = reduceAt (depth + 1) inner
        ∧ (reduceAt depth ('(' :: inner ++ [')']) = reduceAt depth inner
          ∨ reduceAt depth ('(' :: inner ++ [')']) = .error .nestingTooDeep)
  := by
  refine ⟨?_, ?_, ?_⟩
  · intro left right o ho hright hnone
    apply reduceAt_additive hdepth ho hright hnone
  · intro left right o ho hleft hnoneLeft hright hnone
    apply reduceAt_multiplicative hdepth ho hleft hnoneLeft hright hnone
  · intro inner hinner
    rw [reduceAt_parenthesized hdepth hinner]
    use rfl
    apply reduceAt_succ

/-- Both sides fail but the left one counts, a quotient has an error of its own, and at the greatest
depth nothing fits into parentheses. -/
theorem reduceAt_compositional_errors :
  reduceAt 0 [')', '+', '2', '*', '(', '1', '-', ')'] = .error (.malformed [')'])
    ∧ reduceAt 0 ['6', '/', '(', '1', '-', '1', ')'] = .error .divisionByZero
    ∧ reduceAt 1024 ['(', '1', ')'] = .error .nestingTooDeep
  := by
  have hproduct : Balanced ['2', '*', '(', '1', '-', ')'] :=
    (balanced_of_opens (s := ['2', '*']) (by simp [opens])).append
      (balanced_of_opens (s := ['1', '-']) (by simp [opens])).parenthesized
  have hdifference : Balanced ['(', '1', '-', '1', ')'] :=
    (balanced_of_opens (s := ['1', '-', '1']) (by simp [opens])).parenthesized
  have h0 : 0 ≤ maxDepth := Nat.zero_le _
  have h1024 : 1024 ≤ maxDepth := Nat.le_refl _
  refine ⟨?_, ?_, ?_⟩
  · have hsum := (reduceAt_compositional h0).1 [')'] ['2', '*', '(', '1', '-', ')'] .add rfl
      hproduct
    apply (hsum _).trans
    · decide +kernel
    · rw [← split?_eq_none_iff_not_hasOuterOperator hproduct.2]
      decide
  · have hquotient := (reduceAt_compositional h0).2.1 ['6'] ['(', '1', '-', '1', ')'] .div rfl
      (balanced_of_opens (by simp [opens]))
    apply (hquotient _ hdifference _).trans
    · decide +kernel
    · rw [← split?_eq_none_iff_not_hasOuterOperator rfl]
      decide
    · intro p
      rw [← split?_eq_none_iff_not_hasOuterOperator hdifference.2]
      cases p <;> decide
  · have hone := (reduceAt_compositional h1024).2.2 ['1'] (balanced_of_opens (by simp [opens]))
    apply hone.1.trans
    rfl

end Reckoner
