import Reckoner.Proofs.Expression.Reduction

/-!
# The levels of a reduction

`reduceFreely` is the reduction without a bound on its levels, and `descent s` is the number of
levels below `s` that it enters. A piece that fails ends the reduction, so that the levels of the
pieces on its right do not count. A bound on the levels has no other effect than to turn the result
into an error where the descent goes beyond it (`reduceWithin_eq`). Each level takes an operator or
an opening parenthesis of the text, which bounds the descent.
-/

namespace Reckoner

variable {s : Text} {x : Split} {inner : Text}

/-! ### Pieces of a text -/

theorem length_of_topSplit? (h : topSplit? s = some x) :
  s.length = x.left.length + x.right.length + 1
  := by
  have htext := text_of_split? (split?_of_topSplit? h).1
  rw [← htext, Split.text, List.length_append, List.length_cons, Nat.add_assoc]

theorem length_of_enclosed? (h : enclosed? s = some inner) :
  s.length = inner.length + 2
  := by
  rw [eq_parenthesized_of_enclosed? h]
  simp

theorem length_left_lt (h : topSplit? s = some x) :
  x.left.length < s.length
  := by
  rw [length_of_topSplit? h]
  omega

theorem length_right_lt (h : topSplit? s = some x) :
  x.right.length < s.length
  := by
  rw [length_of_topSplit? h]
  omega

theorem length_inner_lt (h : enclosed? s = some inner) :
  inner.length < s.length
  := by
  rw [length_of_enclosed? h]
  omega

/-- Induction on a text by way of the pieces that a reduction looks at. -/
@[elab_as_elim]
theorem Text.pieceInduction {motive : Text → Prop}
    (split : ∀ s x, topSplit? s = some x → motive x.left → motive x.right → motive s)
    (enclosed : ∀ s inner, topSplit? s = none → enclosed? s = some inner → motive inner → motive s)
    (literal : ∀ s, topSplit? s = none → enclosed? s = none → motive s) (s : Text) :
  motive s
  := by
  induction hlength : s.length using Nat.strongRecOn generalizing s with
  | ind n ih =>
    subst hlength
    cases hsplit : topSplit? s with
    | some x =>
      apply split s x hsplit
      · apply ih _ (length_left_lt hsplit) x.left rfl
      · apply ih _ (length_right_lt hsplit) x.right rfl
    | none =>
      cases hinner : enclosed? s with
      | some inner =>
        apply enclosed s inner hsplit hinner
        apply ih _ (length_inner_lt hinner) inner rfl
      | none => apply literal s hsplit hinner

/-! ### Reduction without a bound -/

/-- The value of a text, found on as many levels as it takes. -/
def reduceFreely (s : Text) : Except ReductionError Number :=
  match _ : topSplit? s with
  | some x => do
    let left ← reduceFreely x.left
    let right ← reduceFreely x.right
    x.operator.apply left right
  | none =>
    match _ : enclosed? s with
    | some inner => reduceFreely inner
    | none => literal s
termination_by s.length
decreasing_by
  · apply length_left_lt
    assumption
  · apply length_right_lt
    assumption
  · apply length_inner_lt
    assumption

/-- A text that is split has the value of its operator on the values of the two sides. -/
theorem reduceFreely_of_topSplit? (h : topSplit? s = some x) :
  reduceFreely s = (do
    let left ← reduceFreely x.left
    let right ← reduceFreely x.right
    x.operator.apply left right)
  := by
  grind [reduceFreely]

theorem reduceFreely_of_enclosed? (h : topSplit? s = none) (hinner : enclosed? s = some inner) :
  reduceFreely s = reduceFreely inner
  := by
  grind [reduceFreely]

theorem reduceFreely_of_literal (h : topSplit? s = none) (hinner : enclosed? s = none) :
  reduceFreely s = literal s
  := by
  grind [reduceFreely]

/-- The levels are not used up where a text has to be a number. -/
theorem literal_ne_nestingTooDeep (s : Text) :
  literal s ≠ .error .nestingTooDeep
  := by
  rw [literal]
  split
  · simp
  · simp

/-- Without a bound no reduction is too deep. -/
theorem reduceFreely_ne_nestingTooDeep (s : Text) :
  reduceFreely s ≠ .error .nestingTooDeep
  := by
  induction s using Text.pieceInduction with
  | split s x hsplit ihleft ihright =>
    rw [reduceFreely_of_topSplit? hsplit]
    intro h
    rcases bind_eq_error_iff.mp h with h | ⟨l, -, h⟩
    · apply ihleft h
    · rcases bind_eq_error_iff.mp h with h | ⟨r, -, h⟩
      · apply ihright h
      · cases Operator.eq_divisionByZero_of_apply h
  | enclosed s inner hsplit hinner ih =>
    rw [reduceFreely_of_enclosed? hsplit hinner]
    apply ih
  | literal s hsplit hinner =>
    rw [reduceFreely_of_literal hsplit hinner]
    apply literal_ne_nestingTooDeep

/-! ### The descent -/

/-- The number of levels below a text that its reduction enters. -/
def descent (s : Text) : Nat :=
  match _ : topSplit? s with
  | some x =>
    match reduceFreely x.left with
    | .ok _ => max (descent x.left) (descent x.right) + 1
    | .error _ => descent x.left + 1
  | none =>
    match _ : enclosed? s with
    | some inner => descent inner + 1
    | none => 0
termination_by s.length
decreasing_by
  · apply length_left_lt
    assumption
  · apply length_right_lt
    assumption
  · apply length_left_lt
    assumption
  · apply length_inner_lt
    assumption

/-- Below a text that is split there is a level for both sides, if the left one has a value. -/
theorem descent_of_ok {v : Number} (h : topSplit? s = some x)
    (hleft : reduceFreely x.left = .ok v) :
  descent s = max (descent x.left) (descent x.right) + 1
  := by
  grind [descent]

/-- Below a text that is split only the levels of the left side are entered, if it has no value. -/
theorem descent_of_error {e : ReductionError} (h : topSplit? s = some x)
    (hleft : reduceFreely x.left = .error e) :
  descent s = descent x.left + 1
  := by
  grind [descent]

theorem descent_of_enclosed? (h : topSplit? s = none) (hinner : enclosed? s = some inner) :
  descent s = descent inner + 1
  := by
  grind [descent]

theorem descent_of_literal (h : topSplit? s = none) (hinner : enclosed? s = none) :
  descent s = 0
  := by
  grind [descent]

/-- A bound on the levels turns the result into an error if the descent is not below it, and has no
effect otherwise. -/
theorem reduceWithin_eq (levels : Nat) (s : Text) :
  reduceWithin levels s = if descent s < levels then reduceFreely s else .error .nestingTooDeep
  := by
  induction s using Text.pieceInduction generalizing levels with
  | split s x hsplit ihleft ihright =>
    cases levels with
    | zero => rfl
    | succ levels =>
      rw [reduceWithin_of_topSplit? hsplit, reduceFreely_of_topSplit? hsplit, ihleft, ihright]
      -- An error of the left piece hides how far the right one descends.
      cases hleft : reduceFreely x.left with
      | error e =>
        rw [descent_of_error hsplit hleft]
        simp only [Nat.add_lt_add_iff_right]
        split
        · rfl
        · rfl
      | ok v =>
        rw [descent_of_ok hsplit hleft]
        simp only [Nat.add_lt_add_iff_right, Nat.max_lt]
        by_cases hltLeft : descent x.left < levels
        · by_cases hltRight : descent x.right < levels
          · rw [if_pos hltLeft, if_pos hltRight, if_pos ⟨hltLeft, hltRight⟩]
          · rw [if_pos hltLeft, if_neg hltRight, if_neg (not_and_of_not_right _ hltRight)]
            rfl
        · rw [if_neg hltLeft, if_neg (not_and_of_not_left _ hltLeft)]
          rfl
  | enclosed s inner hsplit hinner ih =>
    cases levels with
    | zero => rfl
    | succ levels =>
      rw [reduceWithin_of_enclosed? hsplit hinner, reduceFreely_of_enclosed? hsplit hinner,
        descent_of_enclosed? hsplit hinner, ih]
      simp only [Nat.add_lt_add_iff_right]
  | literal s hsplit hinner =>
    cases levels with
    | zero => rfl
    | succ levels =>
      rw [reduceWithin_of_literal hsplit hinner, reduceFreely_of_literal hsplit hinner,
        descent_of_literal hsplit hinner, if_pos (Nat.succ_pos levels)]

/-- The same of a reduction that begins at some depth. -/
theorem reduceAt_eq (depth : Nat) (s : Text) :
  reduceAt depth s
    = if depth + descent s ≤ maxDepth then reduceFreely s else .error .nestingTooDeep
  := by
  have hiff : descent s < maxDepth + 1 - depth ↔ depth + descent s ≤ maxDepth := by omega
  rw [reduceAt, reduceWithin_eq]
  simp only [hiff]

/-! ### The bound on the descent -/

/-- A character can take a level if it is the symbol of an operator or an opening parenthesis. -/
def takesLevel (c : Char) : Bool :=
  c == '(' || (Operator.ofChar? c).isSome

/-- The number of characters of a text that can take a level. -/
def levelMarks (s : Text) : Nat :=
  s.countP takesLevel

theorem takesLevel_symbol (o : Operator) :
  takesLevel o.symbol
  := by
  cases o <;> rfl

/-- The marks of levels in a split text are those of its sides and the symbol of the operator. -/
theorem levelMarks_of_topSplit? (h : topSplit? s = some x) :
  levelMarks s = levelMarks x.left + levelMarks x.right + 1
  := by
  have htext := text_of_split? (split?_of_topSplit? h).1
  rw [← htext, Split.text, levelMarks, List.countP_append,
    List.countP_cons_of_pos (takesLevel_symbol _), ← Nat.add_assoc]
  rfl

theorem levelMarks_of_enclosed? (h : enclosed? s = some inner) :
  levelMarks s = levelMarks inner + 1
  := by
  rw [eq_parenthesized_of_enclosed? h, levelMarks, List.countP_append,
    List.countP_cons_of_pos (by rfl)]
  rfl

/-- A text has at least as many marks of levels as its reduction enters levels. -/
theorem descent_le_levelMarks (s : Text) :
  descent s ≤ levelMarks s
  := by
  induction s using Text.pieceInduction with
  | split s x hsplit ihleft ihright =>
    rw [levelMarks_of_topSplit? hsplit]
    cases hleft : reduceFreely x.left with
    | error e =>
      rw [descent_of_error hsplit hleft]
      omega
    | ok v =>
      rw [descent_of_ok hsplit hleft]
      omega
  | enclosed s inner hsplit hinner ih =>
    rw [descent_of_enclosed? hsplit hinner, levelMarks_of_enclosed? hinner]
    apply Nat.succ_le_succ ih
  | literal s hsplit hinner =>
    rw [descent_of_literal hsplit hinner]
    apply Nat.zero_le

/-! ### Chains of additions -/

namespace Tree

variable {t : Tree} {terms : List Text}

/-- The tree to which numbers are added one after the other. -/
def plus (t : Tree) (terms : List Text) : Tree :=
  terms.foldl (fun t text => binary .add t (number text)) t

/-- A tree to which numbers are added is spelled with plus signs between them. -/
theorem spelling_plus (t : Tree) (terms : List Text) :
  (t.plus terms).spelling = ['+'].intercalate (t.spelling :: terms)
  := by
  induction terms generalizing t with
  | nil => rw [List.intercalate_singleton, plus, List.foldl_nil]
  | cons text terms ih =>
    apply Eq.trans (ih (binary .add t (number text)))
    cases terms with
    | nil => simp [spelling, Operator.symbol, List.intercalate_cons_cons]
    | cons text' terms => simp [spelling, Operator.symbol, List.intercalate_cons_cons]

/-- Each number that is added puts one more level on top of a tree. -/
theorem height_plus (t : Tree) (terms : List Text) :
  (t.plus terms).height = t.height + terms.length
  := by
  induction terms generalizing t with
  | nil => rfl
  | cons text terms ih =>
    apply Eq.trans (ih (binary .add t (number text)))
    rw [height, height, Nat.max_zero, List.length_cons]
    omega

theorem names_plus (t : Tree) (terms : List Text) :
  (t.plus terms).names = t.names
  := by
  induction terms generalizing t with
  | nil => rfl
  | cons text terms ih =>
    apply Eq.trans (ih (binary .add t (number text)))
    rw [names, names, List.append_nil]

/-- A grammatical tree to which numbers are added is grammatical. -/
theorem IsGrammatical.plus (ht : t.IsGrammatical) (hterms : ∀ text ∈ terms, IsLiteral text) :
  (t.plus terms).IsGrammatical
  := by
  induction terms generalizing t with
  | nil => apply ht
  | cons text terms ih =>
    apply ih
    · use ht, hterms text List.mem_cons_self
      apply (Option.some_ne_none _).symm
    · intro text' htext'
      apply hterms text' (List.mem_cons_of_mem text htext')

/-- Additions do not fail. -/
theorem exists_value_plus {values : Text → Option Number} (ht : ∃ v, t.value values = .ok v)
    (hterms : ∀ text ∈ terms, IsLiteral text) :
  ∃ v, (t.plus terms).value values = .ok v
  := by
  induction terms generalizing t with
  | nil => apply ht
  | cons text terms ih =>
    apply ih
    · obtain ⟨l, hl⟩ := ht
      obtain ⟨r, hr⟩ := (hterms text List.mem_cons_self).exists_literal
      use l + r
      rw [value, hl, value, hr]
      rfl
    · intro text' htext'
      apply hterms text' (List.mem_cons_of_mem text htext')

/-- A text with a reading reduces to a number if and only if the reading has a value and is no
higher than the greatest depth. -/
theorem IsReading.exists_reduce_iff {s : Text} (ht : t.IsReading s) :
  (∃ v, reduce s = .ok v) ↔ t.height ≤ maxDepth ∧ ∃ v, t.value (fun _ => none) = .ok v
  := by
  constructor
  · rintro ⟨v, hv⟩
    obtain ⟨t', ht', hheight, hvalue⟩ := exists_isReading_of_reduce hv
    rw [ht.unique ht']
    exact ⟨hheight, v, hvalue _⟩
  · rintro ⟨hheight, v, hv⟩
    use v
    rw [ht.reduce_eq hheight, hv]

end Tree

/-- A chain of additions reduces to a number if and only if it is no longer than the levels. -/
theorem exists_reduce_chain_iff {first : Text} {rest : List Text}
    (h : ∀ text ∈ first :: rest, IsLiteral text) :
  (∃ v, reduce (['+'].intercalate (first :: rest)) = .ok v)
    ↔ (first :: rest).length ≤ maxDepth + 1
  := by
  rw [List.forall_mem_cons] at h
  have hreading :
      ((Tree.number first).plus rest).IsReading (['+'].intercalate (first :: rest)) := by
    constructor
    · apply Tree.IsGrammatical.plus (t := .number first) h.1 h.2
    · rw [Tree.names_plus, Tree.names]
    · rw [Tree.spelling_plus, Tree.spelling]
  have hvalue : ∃ v, ((Tree.number first).plus rest).value (fun _ => none) = .ok v :=
    Tree.exists_value_plus h.1.exists_literal h.2
  rw [hreading.exists_reduce_iff, and_iff_left hvalue, Tree.height_plus, Tree.height, Nat.zero_add,
    List.length_cons, Nat.add_le_add_iff_right]

/-- The bound on the depth of a reduction only turns results into errors, and it does so exactly if
the levels in front of a text and those that its reduction enters are together more than the
greatest depth. A text has no more levels than characters that can take one, so that one with at
most that many is never too deep, and a chain of additions is accepted exactly if its terms are at
most one more. -/
theorem reduceAt_descent (s : Text) :
  descent s ≤ levelMarks s
    ∧ (∀ depth, reduceAt depth s
        = if depth + descent s ≤ maxDepth then reduceFreely s else .error .nestingTooDeep)
    ∧ (levelMarks s ≤ maxDepth → reduce s ≠ .error .nestingTooDeep)
    ∧ ∀ terms ≠ [], (∀ text ∈ terms, IsLiteral text) →
        ((∃ v, reduce (['+'].intercalate terms) = .ok v) ↔ terms.length ≤ maxDepth + 1)
  := by
  have hle := descent_le_levelMarks s
  refine ⟨hle, fun depth => reduceAt_eq depth s, ?_, ?_⟩
  · intro hmarks
    rw [reduce, reduceAt_eq, if_pos (by omega)]
    apply reduceFreely_ne_nestingTooDeep
  · intro terms hne hterms
    obtain ⟨first, rest, rfl⟩ := List.exists_cons_of_ne_nil hne
    apply exists_reduce_chain_iff hterms

/-- The longest chain of ones that is accepted has 1025 of them. -/
theorem reduceAt_descent_ones :
  (∃ v, reduce (['+'].intercalate (List.replicate 1025 ['1'])) = .ok v)
    ∧ (¬∃ v, reduce (['+'].intercalate (List.replicate 1026 ['1'])) = .ok v)
    ∧ reduce ['(', '1', '+', '(', ')'] ≠ .error .nestingTooDeep
  := by
  have hone : IsLiteral ['1'] := by decide +kernel
  have hones : ∀ n, ∀ text ∈ List.replicate n ['1'], IsLiteral text := by
    intro n text htext
    rw [List.eq_of_mem_replicate htext]
    apply hone
  refine ⟨?_, ?_, ?_⟩
  · rw [(reduceAt_descent []).2.2.2 _ List.replicate_succ_ne_nil (hones 1025),
      List.length_replicate]
    decide
  · rw [(reduceAt_descent []).2.2.2 _ List.replicate_succ_ne_nil (hones 1026),
      List.length_replicate]
    decide
  · apply (reduceAt_descent _).2.2.1
    decide

end Reckoner
