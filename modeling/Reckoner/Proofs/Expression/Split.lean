import Reckoner.Expression.Split
import Reckoner.Proofs.Expression.Balance

/-!
# Where a text splits

`split?_eq_some_iff` says which splits of a text `split?` finds, and `split?_eq_none_iff` which
texts it does not split. A text that closes as many parentheses as it opens hides none of the
splits of what stands in front of it.
-/

namespace Reckoner

variable {p : Precedence}

/-- A text is not split at an operator if its tail is not split and its first character is no such
operator outside the parentheses of the tail. -/
theorem split?_cons_eq_none_iff {c : Char} {s : Text} :
  split? p (c :: s) = none
    ↔ split? p s = none
      ∧ ∀ o, Operator.ofChar? c = some o → o.precedence = p → unclosed s ≠ 0
  := by
  rw [split?_cons]
  cases split? p s with
  | some x => simp
  | none =>
    cases Operator.ofChar? c with
    | none => simp
    | some o => simp

/-- A text does not split if no parenthesis is open or closed too often behind any of its
operators. -/
theorem split?_eq_none_iff {s : Text} :
  split? p s = none
    ↔ ∀ left (o : Operator) right, s = left ++ o.symbol :: right → o.precedence = p →
      unclosed right ≠ 0
  := by
  induction s with
  | nil => simp
  | cons c s ih =>
    rw [split?_cons_eq_none_iff, ih]
    constructor
    · rintro ⟨hs, hc⟩ left o right heq hp
      rcases List.cons_eq_append_iff.mp heq with ⟨rfl, hcons⟩ | ⟨left', rfl, hs'⟩
      · obtain ⟨rfl, rfl⟩ := List.cons.inj hcons
        apply hc o (Operator.ofChar?_symbol o) hp
      · apply hs left' o right hs' hp
    · intro h
      constructor
      · intro left o right heq hp
        apply h (c :: left) o right _ hp
        rw [heq]
        rfl
      · intro o ho hp
        apply h [] o s _ hp
        rw [Operator.eq_symbol_of_ofChar? ho]
        rfl

/-- Two texts, of which the second closes what it opens, are not split if neither of them is. -/
theorem split?_append_eq_none_iff {s t : Text} (ht : unclosed t = 0) :
  split? p (s ++ t) = none ↔ split? p s = none ∧ split? p t = none
  := by
  induction s with
  | nil => simp
  | cons c s ih =>
    rw [List.cons_append, split?_cons_eq_none_iff, split?_cons_eq_none_iff, ih, unclosed_append, ht,
      Int.add_zero]
    exact and_right_comm

/-- A text splits at an operator behind which parentheses match and which no later operator
precedes. -/
theorem split?_append_cons {o : Operator} {right : Text} (left : Text) (hp : o.precedence = p)
    (hdepth : unclosed right = 0) (hright : split? p right = none) :
  split? p (left ++ o.symbol :: right) = some ⟨left, o, right⟩
  := by
  induction left with
  | nil =>
    rw [List.nil_append, split?_cons, hright, Operator.ofChar?_symbol]
    apply if_pos ⟨hp, hdepth⟩
  | cons c left ih => rw [List.cons_append, split?_cons, ih]

/-- The right side of a split closes what it opens and has no operator of the class to be split at.
-/
theorem right_of_split? {s : Text} {x : Split} (h : split? p s = some x) :
  x.operator.precedence = p ∧ unclosed x.right = 0 ∧ split? p x.right = none
  := by
  induction s generalizing x with
  | nil => simp at h
  | cons c s ih =>
    rw [split?_cons] at h
    split at h
    · rename_i y _ hy
      obtain rfl := Option.some.inj h
      apply ih hy
    · rename_i o hs ho
      split at h
      · rename_i hc
        obtain rfl := Option.some.inj h
        exact ⟨hc.1, hc.2, hs⟩
      · cases h
    · cases h

/-- The split of a text is the one at the last operator behind which as many parentheses are closed
as are opened. -/
theorem split?_eq_some_iff {s : Text} {x : Split} :
  split? p s = some x
    ↔ x.text = s ∧ x.operator.precedence = p ∧ unclosed x.right = 0 ∧ split? p x.right = none
  := by
  constructor
  · intro h
    exact ⟨text_of_split? h, right_of_split? h⟩
  · rintro ⟨rfl, hp, hdepth, hright⟩
    apply split?_append_cons x.left hp hdepth hright

/-- What stands in a pair of parentheses hides its operators. -/
theorem split?_parenthesized {s : Text} (hs : Balanced s) :
  split? p ('(' :: s ++ [')']) = none
  := by
  have hleft : ∀ o : Operator, '(' ≠ o.symbol := by
    intro o
    cases o <;> decide
  have hright : ∀ o : Operator, ')' ≠ o.symbol := by
    intro o
    cases o <;> decide
  rw [split?_eq_none_iff]
  intro left o right heq hp
  rcases List.cons_eq_append_iff.mp heq with ⟨-, hcons⟩ | ⟨left', rfl, hs'⟩
  · cases hleft o (List.cons.inj hcons).1.symm
  · rcases List.append_eq_append_iff.mp hs' with ⟨u, rfl, hu⟩ | ⟨u, rfl, hu⟩
    · rcases List.singleton_eq_append_iff.mp hu with ⟨rfl, hcons⟩ | ⟨-, hcons⟩
      · cases hright o (List.cons.inj hcons).1.symm
      · cases hcons
    · rcases List.cons_eq_append_iff.mp hu with ⟨rfl, hcons⟩ | ⟨u', rfl, rfl⟩
      · cases hright o (List.cons.inj hcons).1
      · have hbehind : Balanced ((left' ++ [o.symbol]) ++ u') := by simpa using hs
        have hclosed := hbehind.unclosed_right
        have hparen : unclosed [')'] = -1 := rfl
        rw [unclosed_append, hparen]
        omega

end Reckoner
