import Reckoner.Proofs.Expression.Grammar

/-!
# Reduction and the grammar

A reduction computes the value of a tree from its spelling, provided that it may descend to the
height of the tree, and a text that reduces to a number is the spelling of a tree with that value.
The trees in question are those without names.
-/

namespace Reckoner

/-! ### Steps of a reduction -/

/-- A text that is split is reduced by the reduction of its two sides on one level less. -/
theorem reduceWithin_of_topSplit? {levels : Nat} {s : Text} {x : Split} (h : topSplit? s = some x) :
  reduceWithin (levels + 1) s = (do
    let left ← reduceWithin levels x.left
    let right ← reduceWithin levels x.right
    x.operator.apply left right)
  := by
  simp only [reduceWithin, h]

/-- A text in parentheses that is not split is reduced by the reduction of what they enclose on one
level less. -/
theorem reduceWithin_of_enclosed? {levels : Nat} {s inner : Text} (h : topSplit? s = none)
    (hinner : enclosed? s = some inner) :
  reduceWithin (levels + 1) s = reduceWithin levels inner
  := by
  simp only [reduceWithin, h, hinner]

theorem reduceWithin_of_literal {levels : Nat} {s : Text} (h : topSplit? s = none)
    (hinner : enclosed? s = none) :
  reduceWithin (levels + 1) s = literal s
  := by
  simp only [reduceWithin, h, hinner]

/-- Two computations in a row succeed if and only if the first does, and the second on its result.
-/
theorem bind_eq_ok_iff {ε α β : Type} {x : Except ε α} {f : α → Except ε β} {b : β} :
  x >>= f = .ok b ↔ ∃ a, x = .ok a ∧ f a = .ok b
  := by
  cases x with
  | error e => simp [bind, Except.bind]
  | ok a => simp [bind, Except.bind]

/-- Two computations in a row fail if and only if the first does, or the second on its result. -/
theorem bind_eq_error_iff {ε α β : Type} {x : Except ε α} {f : α → Except ε β} {e : ε} :
  x >>= f = .error e ↔ x = .error e ∨ ∃ a, x = .ok a ∧ f a = .error e
  := by
  cases x with
  | error e => simp [bind, Except.bind]
  | ok a => simp [bind, Except.bind]

/-- The only way in which an operator fails is a division by zero. -/
theorem Operator.eq_divisionByZero_of_apply {o : Operator} {l r : Number} {e : ReductionError}
    (h : o.apply l r = .error e) :
  e = .divisionByZero
  := by
  cases o with
  | add => cases h
  | sub => cases h
  | mul => cases h
  | div =>
    rw [apply] at h
    split at h
    · obtain rfl := Except.error.inj h
      rfl
    · cases h

namespace Tree

variable {t : Tree} {levels : Nat}

/-! ### From trees to texts -/

/-- A text within reach reduces to the value of the tree of which it is the spelling. -/
theorem reduceWithin_spelling (ht : t.IsGrammatical) (hnames : t.names = [])
    (h : t.height < levels) (values : Text → Option Number) :
  reduceWithin levels t.spelling = t.value values
  := by
  induction t generalizing levels with
  | number text =>
    cases levels with
    | zero => cases h
    | succ levels =>
      apply reduceWithin_of_literal (topSplit?_of_precedence? ht rfl)
      apply enclosed?_of_isLiteral ht
  | name text => cases hnames
  | parenthesized inner ih =>
    cases levels with
    | zero => cases h
    | succ levels =>
      apply Eq.trans (reduceWithin_of_enclosed? (topSplit?_of_precedence? ht rfl)
        (enclosed?_parenthesized _))
      apply ih ht hnames (Nat.lt_of_succ_lt_succ h)
  | binary o left right ihleft ihright =>
    cases levels with
    | zero => cases h
    | succ levels =>
      obtain ⟨hleft, hright⟩ := List.append_eq_nil_iff.mp hnames
      obtain ⟨hltLeft, hltRight⟩ := Nat.max_lt.mp (Nat.lt_of_succ_lt_succ h)
      rw [reduceWithin_of_topSplit? (topSplit?_binary ht), ihleft ht.1 hleft hltLeft,
        ihright ht.2.1 hright hltRight]
      rfl

/-! ### From texts to trees -/

/-- A text that reduces to a number within some levels is the spelling of a tree that is less high
and has this number as its value. -/
theorem exists_of_reduceWithin {levels : Nat} {s : Text} {v : Number}
    (h : reduceWithin levels s = .ok v) :
  ∃ t : Tree, t.IsGrammatical ∧ t.names = [] ∧ t.spelling = s ∧ t.height < levels
    ∧ ∀ values, t.value values = .ok v
  := by
  -- The sides of a split text are no trees yet, so that the induction is on the levels.
  induction levels generalizing s v with
  | zero => cases h
  | succ levels ih =>
    cases hsplit : topSplit? s with
    | some x =>
      rw [reduceWithin_of_topSplit? hsplit] at h
      obtain ⟨a, ha, h⟩ := bind_eq_ok_iff.mp h
      obtain ⟨b, hb, h⟩ := bind_eq_ok_iff.mp h
      obtain ⟨left, hleft, hleftNames, hleftSpelling, hleftHeight, hleftValue⟩ := ih ha
      obtain ⟨right, hright, hrightNames, hrightSpelling, hrightHeight, hrightValue⟩ := ih hb
      have hspelling : (binary x.operator left right).spelling = s := by
        rw [spelling, hleftSpelling, hrightSpelling]
        apply text_of_split? (split?_of_topSplit? hsplit).1
      use binary x.operator left right
      refine ⟨?_, ?_, hspelling, ?_, ?_⟩
      · apply IsGrammatical.binary hleft hright
        rw [hspelling, hleftSpelling, hrightSpelling]
        apply hsplit
      · rw [names, hleftNames, hrightNames]
        rfl
      · apply Nat.succ_lt_succ (Nat.max_lt.mpr ⟨hleftHeight, hrightHeight⟩)
      · intro values
        rw [value, hleftValue, hrightValue]
        apply h
    | none =>
      cases hinner : enclosed? s with
      | some inner =>
        rw [reduceWithin_of_enclosed? hsplit hinner] at h
        obtain ⟨t, ht, hnames, rfl, hheight, hvalue⟩ := ih h
        use parenthesized t, ht, hnames, (eq_parenthesized_of_enclosed? hinner).symm,
          Nat.succ_lt_succ hheight, hvalue
      | none =>
        rw [reduceWithin_of_literal hsplit hinner] at h
        use number s, isLiteral_of_literal h, rfl, rfl, Nat.succ_pos levels, fun _ => h

/-! ### Readings -/

/-- A tree is a reading of a text if it is grammatical, has no names and is spelled as the text. -/
structure IsReading (t : Tree) (s : Text) : Prop where
  grammatical : t.IsGrammatical
  nameless : t.names = []
  spelling_eq : t.spelling = s

/-- A text has at most one reading. -/
theorem IsReading.unique {s : Text} {t' : Tree} (ht : t.IsReading s) (ht' : t'.IsReading s) :
  t = t'
  := by
  apply spelling_injective ht.grammatical ht'.grammatical
  rw [ht.spelling_eq, ht'.spelling_eq]

/-- A text with a reading that is not too high reduces to the value of the tree. -/
theorem IsReading.reduce_eq {s : Text} (ht : t.IsReading s) (h : t.height ≤ maxDepth)
    (values : Text → Option Number) :
  reduce s = t.value values
  := by
  rw [← ht.spelling_eq]
  apply reduceWithin_spelling ht.grammatical ht.nameless (Nat.lt_succ_of_le h)

/-- A text that reduces to a number has a reading with this value. -/
theorem exists_isReading_of_reduce {s : Text} {v : Number} (h : reduce s = .ok v) :
  ∃ t : Tree, t.IsReading s ∧ t.height ≤ maxDepth ∧ ∀ values, t.value values = .ok v
  := by
  obtain ⟨t, ht, hnames, hspelling, hheight, hvalue⟩ := exists_of_reduceWithin h
  use t, ⟨ht, hnames, hspelling⟩, Nat.le_of_lt_succ hheight

/-- The only way in which the evaluation of a tree without names fails is a division by zero. -/
theorem value_eq_divisionByZero {values : Text → Option Number} {e : ReductionError}
    (ht : t.IsGrammatical) (hnames : t.names = []) (h : t.value values = .error e) :
  e = .divisionByZero
  := by
  induction t with
  | number text =>
    obtain ⟨v, hv⟩ := IsLiteral.exists_literal ht
    rw [value, hv] at h
    cases h
  | name text => cases hnames
  | parenthesized inner ih => apply ih ht hnames h
  | binary o left right ihleft ihright =>
    obtain ⟨hleft, hright⟩ := List.append_eq_nil_iff.mp hnames
    rw [value, bind_eq_error_iff] at h
    rcases h with h | ⟨l, -, h⟩
    · apply ihleft ht.1 hleft h
    · rcases bind_eq_error_iff.mp h with h | ⟨r, -, h⟩
      · apply ihright ht.2.1 hright h
      · apply Operator.eq_divisionByZero_of_apply h

end Tree

/-- A reduction computes the value of the only reading of a text. It yields a number if and only if
there is a reading of a height up to the greatest depth with this number as its value. Of such a
reading it also yields the error, which is a division by zero. A text without a reading does not
reduce to a number. -/
theorem reduce_reading (s : Text) :
  (∀ t t' : Tree, t.IsReading s → t'.IsReading s → t = t')
    ∧ (∀ v, reduce s = .ok v
        ↔ ∃ t : Tree, t.IsReading s ∧ t.height ≤ maxDepth ∧ t.value (fun _ => none) = .ok v)
    ∧ (∀ t : Tree, t.IsReading s → t.height ≤ maxDepth →
        reduce s = t.value (fun _ => none)
          ∧ (∀ piece, reduce s ≠ .error (.malformed piece)) ∧ reduce s ≠ .error .nestingTooDeep)
    ∧ ((∀ t : Tree, ¬t.IsReading s) → ∃ e, reduce s = .error e)
  := by
  refine ⟨fun t t' => Tree.IsReading.unique, fun v => ⟨?_, ?_⟩, ?_, ?_⟩
  · intro h
    obtain ⟨t, ht, hheight, hvalue⟩ := Tree.exists_isReading_of_reduce h
    use t, ht, hheight, hvalue _
  · rintro ⟨t, ht, hheight, hvalue⟩
    rw [ht.reduce_eq hheight, hvalue]
  · intro t ht hheight
    have hreduce := ht.reduce_eq hheight fun _ => none
    have herror : ∀ e, reduce s = .error e → e = .divisionByZero := by
      intro e he
      rw [hreduce] at he
      apply Tree.value_eq_divisionByZero ht.grammatical ht.nameless he
    use hreduce
    constructor
    · intro piece hpiece
      cases herror _ hpiece
    · intro hdeep
      cases herror _ hdeep
  · intro hnone
    cases h : reduce s with
    | error e => use e
    | ok v =>
      obtain ⟨t, ht, -⟩ := Tree.exists_isReading_of_reduce h
      cases hnone t ht

/-- The text `(1)/0.5` has a reading, the value of which is two. The text `(1)(2)` has none, since
the parentheses at its two ends do not belong together. -/
theorem reduce_reading_quotient :
  let t := Tree.binary .div (.parenthesized (.number ['1'])) (.number ['0', '.', '5'])
  t.IsReading ['(', '1', ')', '/', '0', '.', '5']
    ∧ reduce ['(', '1', ')', '/', '0', '.', '5'] = .ok 2
    ∧ ∃ e, reduce ['(', '1', ')', '(', '2', ')'] = .error e
  := by
  intro t
  have hreading : t.IsReading ['(', '1', ')', '/', '0', '.', '5'] := ⟨by decide +kernel, rfl, rfl⟩
  refine ⟨hreading, ?_, ?_⟩
  · rw [((reduce_reading _).2.2.1 t hreading (by decide)).1]
    decide +kernel
  · apply (reduce_reading _).2.2.2
    rintro t' ⟨ht, -, hspelling⟩
    cases t' with
    | number text =>
      rw [Tree.spelling] at hspelling
      rw [Tree.IsGrammatical, hspelling] at ht
      revert ht
      decide +kernel
    | name text =>
      rw [Tree.spelling] at hspelling
      rw [Tree.IsGrammatical, hspelling] at ht
      revert ht
      decide +kernel
    | parenthesized inner =>
      have hinner : inner.spelling = ['1', ')', '(', '2'] := by
        rw [← Option.some_inj, ← enclosed?_parenthesized, ← Tree.spelling, hspelling]
        rfl
      have hbalanced := Tree.IsGrammatical.balanced (t := inner) ht
      rw [hinner] at hbalanced
      have hle := hbalanced.1 ['1', ')'] ⟨['(', '2'], rfl⟩
      revert hle
      decide
    | binary o left right =>
      have ho : o.symbol ∈ ['(', '1', ')', '(', '2', ')'] := by
        rw [← hspelling]
        apply List.mem_append_right _ List.mem_cons_self
      revert ho
      cases o <;> decide

end Reckoner
