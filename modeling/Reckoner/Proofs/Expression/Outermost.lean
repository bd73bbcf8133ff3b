import Reckoner.Proofs.Expression.Composition
import Reckoner.Proofs.Expression.Validity

/-!
# The last operator outside parentheses

Parentheses are counted from both ends of a text: from the start to see whether they match, and from
the end to find the operator at which the text splits. If they match then the two counts agree at
every place (`scanSplit_fst_of_balanced`). A text therefore splits at the last operator that stands
outside parentheses as counted from the start, and what is on its two sides is balanced again.
-/

namespace Reckoner

variable {p : Precedence} {s left right : Text} {o : Operator} {x : Split}

/-- The check of the parentheses reads the tokens of a text, but it tells whether all its characters
are balanced, blank ones included. -/
theorem parenthesesMatch_tokens_iff_balanced :
  parenthesesMatch 0 (tokens s) ↔ Balanced s
  := by
  rw [parenthesesMatch_tokens_iff, Int.natCast_zero, closes_strip_iff, closes_zero_iff]

/-- In a balanced text the number of parentheses that are closed too often behind a place is that of
the parentheses that are left open in front of it. -/
theorem scanSplit_fst_of_balanced (h : Balanced (left ++ right)) (p : Precedence) :
  (scanSplit p right).1 = -unclosed left
  := by
  have hwhole := h.2
  rw [unclosed_append] at hwhole
  rw [scanSplit_fst]
  omega

/-- An operator outside the parentheses of a balanced text stands between balanced texts. -/
theorem Balanced.operands (h : Balanced (left ++ o.symbol :: right)) (hleft : unclosed left = 0) :
  Balanced left ∧ Balanced right
  := by
  have hsymbol : unclosed (left ++ [o.symbol]) = 0 := by
    rw [unclosed_append, hleft, unclosed_cons, opens_symbol]
    rfl
  rw [List.append_cons] at h
  obtain ⟨hstart, hright⟩ := h.of_append hsymbol
  exact ⟨(hstart.of_append hleft).1, hright⟩

/-- A text that closes what it opens is split at an operator of a precedence if and only if there is
one outside its parentheses. -/
theorem isSome_split?_iff (hs : unclosed s = 0) :
  (split? p s).isSome ↔ HasOuterOperator p s
  := by
  rw [← not_iff_not, ← split?_eq_none_iff_not_hasOuterOperator hs, Option.not_isSome_iff_eq_none]

/-- What stands in front of an operator outside parentheses is a beginning of what stands in front
of the one at which the text splits. -/
theorem prefix_left_of_split? (h : split? p (left ++ o.symbol :: right) = some x)
    (hs : unclosed (left ++ o.symbol :: right) = 0) (ho : o.precedence = p)
    (hleft : unclosed left = 0) :
  left <+: x.left
  := by
  obtain ⟨htext, -, -, hnone⟩ := split?_eq_some_iff.mp h
  rcases List.append_eq_append_iff.mp htext with ⟨u, hu, hright⟩ | ⟨u, hu, -⟩
  · cases u with
    | nil =>
      refine ⟨[], ?_⟩
      rw [hu, List.append_nil, List.append_nil]
    | cons c u =>
      -- An operator behind the split would be one at which its right side splits.
      rw [List.cons_append, List.cons.injEq] at hright
      have hbehind := (unclosed_left_eq_zero_iff hs).mp hleft
      cases split?_eq_none_iff.mp hnone u o right hright.2 ho hbehind
  · rw [hu]
    apply List.prefix_append

/-- If the parentheses of a text match then the count from the end, at any place, is the count from
the start. For either class of operators the text splits if and only if one of them stands where the
count from the start is zero. It splits at the last of these into two texts whose parentheses match
again, and which are the whole text together with the operator between them. -/
theorem split?_of_parenthesesMatch (h : parenthesesMatch 0 (tokens s)) (p : Precedence) :
  (∀ start rest, start ++ rest = s → (scanSplit p rest).1 = -unclosed start)
    ∧ ((split? p s).isSome ↔ HasOuterOperator p s)
    ∧ ∀ x, split? p s = some x →
      x.text = s ∧ x.operator.precedence = p ∧ unclosed x.left = 0
        ∧ (∀ left right, ∀ o : Operator, left ++ o.symbol :: right = s → o.precedence = p →
            unclosed left = 0 → left <+: x.left)
        ∧ parenthesesMatch 0 (tokens x.left) ∧ parenthesesMatch 0 (tokens x.right)
  := by
  rw [parenthesesMatch_tokens_iff_balanced] at h
  refine ⟨?_, isSome_split?_iff h.2, ?_⟩
  · rintro start rest rfl
    apply scanSplit_fst_of_balanced h
  · intro x hx
    obtain ⟨htext, hp, hright, -⟩ := split?_eq_some_iff.mp hx
    have hbalanced : Balanced (x.left ++ x.operator.symbol :: x.right) := by
      rw [← htext] at h
      apply h
    have hleft := (unclosed_left_eq_zero_iff hbalanced.2).mpr hright
    rw [parenthesesMatch_tokens_iff_balanced, parenthesesMatch_tokens_iff_balanced]
    refine ⟨htext, hp, hleft, ?_, hbalanced.operands hleft⟩
    rintro left right o rfl ho hzero
    apply prefix_left_of_split? hx h.2 ho hzero

/-- The last minus sign is in parentheses, so that the one in front of it counts. No product stands
outside of them behind the two terms. -/
theorem split?_of_parenthesesMatch_difference :
  let left := "1-(é+1)".toList
  let right := "(3-4)".toList
  parenthesesMatch 0 (tokens (left ++ '-' :: right))
    ∧ HasOuterOperator .additive (left ++ '-' :: right)
    ∧ parenthesesMatch 0 (tokens left) ∧ parenthesesMatch 0 (tokens right)
    ∧ ¬HasOuterOperator .multiplicative (left ++ '-' :: right)
  := by
  intro left right
  have hmatch : parenthesesMatch 0 (tokens (left ++ '-' :: right)) := by decide +kernel
  have hadditive := (split?_of_parenthesesMatch hmatch .additive).2
  have hmultiplicative := (split?_of_parenthesesMatch hmatch .multiplicative).2
  have hsplit : split? .additive (left ++ '-' :: right) = some ⟨left, .sub, right⟩ := by
    decide +kernel
  obtain ⟨-, -, -, -, hleft, hright⟩ := hadditive.2 _ hsplit
  refine ⟨hmatch, hadditive.1.mp ?_, hleft, hright, ?_⟩
  · rw [hsplit]
    rfl
  · rw [← hmultiplicative.1]
    decide +kernel

end Reckoner
