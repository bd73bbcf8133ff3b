import Reckoner.Expression.Balance

/-!
# Balanced texts

Balanced texts are closed under concatenation and under a pair of parentheses around them. Seen
from its end, a balanced text closes no fewer parentheses than it opens. Balance can also be told
from the numbers of opening and of closing parentheses (`balanced_iff_count`).
-/

namespace Reckoner

theorem unclosed_eq_zero {s : Text} (h : ∀ c ∈ s, opens c = 0) :
  unclosed s = 0
  := by
  induction s with
  | nil => rfl
  | cons c s ih =>
    rw [unclosed_cons, h c List.mem_cons_self, ih fun d hd => h d (List.mem_cons_of_mem c hd)]
    rfl

/-- A text without parentheses is balanced. -/
theorem balanced_of_opens {s : Text} (h : ∀ c ∈ s, opens c = 0) :
  Balanced s
  := by
  constructor
  · intro start hstart
    apply Int.le_of_eq
    symm
    apply unclosed_eq_zero fun c hc => h c (hstart.subset hc)
  · apply unclosed_eq_zero h

/-- A beginning of a balanced text leaves no fewer than zero parentheses open. -/
theorem Balanced.unclosed_left {start rest : Text} (h : Balanced (start ++ rest)) :
  0 ≤ unclosed start
  := h.1 start (List.prefix_append start rest)

/-- The rest of a balanced text closes what its beginning leaves open. -/
theorem Balanced.unclosed_right {start rest : Text} (h : Balanced (start ++ rest)) :
  unclosed rest ≤ 0
  := by
  have hleft := h.unclosed_left
  have hwhole := h.2
  rw [unclosed_append] at hwhole
  omega

theorem Balanced.append {s t : Text} (hs : Balanced s) (ht : Balanced t) :
  Balanced (s ++ t)
  := by
  constructor
  · rintro start ⟨rest, hrest⟩
    rcases List.append_eq_append_iff.mp hrest with ⟨u, rfl, -⟩ | ⟨u, rfl, rfl⟩
    · apply hs.unclosed_left
    · rw [unclosed_append, hs.2, Int.zero_add]
      apply ht.unclosed_left
  · rw [unclosed_append, hs.2, ht.2]
    rfl

/-- Where a balanced text leaves nothing open it divides into two balanced texts. -/
theorem Balanced.of_append {s t : Text} (h : Balanced (s ++ t)) (hs : unclosed s = 0) :
  Balanced s ∧ Balanced t
  := by
  have ht : unclosed t = 0 := by
    have hwhole := h.2
    rw [unclosed_append, hs, Int.zero_add] at hwhole
    apply hwhole
  refine ⟨⟨?_, hs⟩, ?_, ht⟩
  · intro start hstart
    apply h.1 start (hstart.trans (List.prefix_append s t))
  · intro start hstart
    have hstart' := h.1 (s ++ start) ((List.prefix_append_right_inj s).mpr hstart)
    rw [unclosed_append, hs, Int.zero_add] at hstart'
    apply hstart'

/-- A balanced text in parentheses is balanced. -/
theorem Balanced.parenthesized {s : Text} (hs : Balanced s) :
  Balanced ('(' :: s ++ [')'])
  := by
  have hleft : opens '(' = 1 := rfl
  have hright : opens ')' = -1 := rfl
  constructor
  · rintro start ⟨rest, hrest⟩
    rcases List.append_eq_cons_iff.mp hrest with ⟨rfl, -⟩ | ⟨start', rfl, hrest'⟩
    · apply Int.le_refl
    · rw [unclosed_cons, hleft]
      rcases List.append_eq_append_iff.mp hrest'.symm with ⟨u, rfl, -⟩ | ⟨u, rfl, hu⟩
      · have := hs.unclosed_left
        omega
      · rw [unclosed_append, hs.2]
        rcases List.append_eq_singleton_iff.mp hu.symm with ⟨rfl, -⟩ | ⟨rfl, -⟩
        · decide
        · decide
  · simp [hs.2, hleft, hright]

/-! ### Counting -/

/-- The parentheses that a text leaves open are those that it opens less those that it closes. -/
theorem unclosed_eq (s : Text) :
  unclosed s = (s.count '(' : Int) - s.count ')'
  := by
  induction s with
  | nil => rfl
  | cons c s ih =>
    rw [unclosed_cons, ih, List.count_cons, List.count_cons]
    by_cases hleft : c = '('
    · subst hleft
      simp [opens]
      omega
    · by_cases hright : c = ')'
      · subst hright
        simp [opens]
        omega
      · simp [opens, hleft, hright]

/-- A text is balanced if and only if no beginning has more closing than opening parentheses and the
whole has as many of the ones as of the others. -/
theorem balanced_iff_count {s : Text} :
  Balanced s
    ↔ (∀ start, start <+: s → start.count ')' ≤ start.count '(') ∧ s.count '(' = s.count ')'
  := by
  have hstart (start : Text) : 0 ≤ unclosed start ↔ start.count ')' ≤ start.count '(' := by
    rw [unclosed_eq]
    omega
  have hwhole : unclosed s = 0 ↔ s.count '(' = s.count ')' := by
    rw [unclosed_eq]
    omega
  simp only [Balanced, hstart, hwhole]

end Reckoner
