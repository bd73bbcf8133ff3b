import Reckoner.Proofs.Evaluation.Values
import Reckoner.Proofs.Expression.Instantiation

/-!
# Evaluation of trees

The evaluation of an expression in token mode is the evaluation of its tree. Blank characters may
stand anywhere in the expression but within a name. The names need values that are finite and have
no sign: a value of another kind does not turn into a wrong result, but makes the evaluation fail.
-/

namespace Reckoner

/-- A text spells a tree if it is the spelling of the tree with blank characters put in anywhere but
within names. In the spelling of a grammatical tree two letters are next to each other only within a
name. -/
structure Tree.IsSpelledBy (t : Tree) (s : Text) : Prop where
  strip_eq : s.strip = t.spelling
  lettersTogether : LettersTogether s

variable {t : Tree} {s : Text} {values : Bindings}

/-- Every spelling of a tree of the grammar is valid. -/
theorem Tree.IsSpelledBy.isValid (ht : t.IsGrammatical) (hs : t.IsSpelledBy s) :
  isValid s
  := by
  rw [isValid_iff, hs.strip_eq]
  use ht.balanced, ht.symbolsApart

/-- The names of a spelling are the names of the tree. -/
theorem Tree.IsSpelledBy.mem_variableNames (ht : t.IsGrammatical) (hs : t.IsSpelledBy s)
    {name : Text} :
  name ∈ variableNames s ↔ name ∈ t.names
  := by
  rw [← mem_nameRuns, ← nameRuns_strip hs.lettersTogether, hs.strip_eq, nameRuns_spelling ht]

/-- The evaluation of a text that spells a tree reduces the spelling of the tree with values. -/
theorem evaluate_isSpelledBy (ht : t.IsGrammatical) (hs : t.IsSpelledBy s)
    (hvalues : ∀ name ∈ t.names, (values.get? name).isSome) :
  evaluate .token values s
    = (reduce (t.instantiate values.get?).spelling).mapError .reduction
  := by
  have hnames : ∀ name ∈ variableNames s, (values.get? name).isSome := by
    intro name hname
    apply hvalues name (hs.mem_variableNames ht |>.mp hname)
  obtain ⟨b, hb, hget⟩ := Bindings.exists_collect hnames .empty
  have hcongr : t.instantiate b.get? = t.instantiate values.get? := by
    apply Tree.instantiate_congr
    intro name hname
    rw [hget, if_pos ((hs.mem_variableNames ht).mpr hname)]
  have hsubstitute : substitute .token b s.strip = (t.instantiate values.get?).spelling := by
    rw [hs.strip_eq, ← hcongr]
    apply Tree.substituteTokens_spelling ht
  rw [evaluate_eq (hs.isValid ht), hb, ← hsubstitute]
  rfl

/-- An evaluation in token mode yields a number if and only if the values of all names are finite
and have no sign, the tree is no higher than the greatest depth, and its value is this number. If
only the last of these conditions fails, by a division by zero, then the evaluation fails in the
same way, and it fails whenever the value of a name is negative or not finite. -/
theorem evaluate_tree (ht : t.IsGrammatical) (hs : t.IsSpelledBy s)
    (hvalues : ∀ name ∈ t.names, (values.get? name).isSome) :
  (∀ v, evaluate .token values s = .ok v
      ↔ t.HasUnsignedValues values.get? ∧ t.height ≤ maxDepth ∧ t.value values.get? = .ok v)
    ∧ (t.HasUnsignedValues values.get? → t.height ≤ maxDepth →
        t.value values.get? = .error .divisionByZero →
        evaluate .token values s = .error (.reduction .divisionByZero))
    ∧ ∀ name ∈ t.names, ∀ w, values.get? name = some w → ¬w.IsUnsigned →
        ∃ e, evaluate .token values s = .error e
  := by
  rw [evaluate_isSpelledBy ht hs hvalues]
  refine ⟨fun v => ?_, ?_, ?_⟩
  · rw [mapError_eq_ok_iff]
    apply Tree.reduce_instantiate_eq_ok_iff ht hvalues
  · intro hunsigned hheight hvalue
    rw [Tree.reduce_instantiate ht hunsigned hheight, hvalue]
    rfl
  · intro name hname w hw hsigned
    cases hreduce : reduce (t.instantiate values.get?).spelling with
    | error e =>
      use .reduction e
      rfl
    | ok v => apply (Tree.reduce_instantiate_ne_ok hname hw hsigned v hreduce).elim

/-- The quotient of one and `a` in parentheses, with blank characters, for a value of `a` that is
not negative, one that is, and zero. -/
theorem evaluate_tree_quotient :
  evaluate .token (.ofList [(['a'], 0.5), (['b'], -1)]) ['1', ' ', '/', '(', 'a', ' ', ')'] = .ok 2
    ∧ (∃ e, evaluate .token (.ofList [(['a'], -1)]) ['1', ' ', '/', '(', 'a', ' ', ')'] = .error e)
    ∧ evaluate .token (.ofList [(['a'], 0)]) ['1', ' ', '/', '(', 'a', ' ', ')']
      = .error (.reduction .divisionByZero)
  := by
  let t := Tree.binary .div (.number ['1']) (.parenthesized (.name ['a']))
  have ht : t.IsGrammatical := by decide +kernel
  have hs : t.IsSpelledBy ['1', ' ', '/', '(', 'a', ' ', ')'] := by
    refine ⟨by decide, ?_⟩
    intro left a gap b right h ha hb _
    have hone : ['1', ' ', '/', '(', 'a', ' ', ')'].countP isLetter = 1 := by decide +kernel
    rw [h] at hone
    simp only [List.countP_append, List.countP_cons_of_pos ha, List.countP_cons_of_pos hb] at hone
    omega
  have hunsigned : ∀ values : Bindings, ∀ v, values.get? ['a'] = some v → v.IsUnsigned →
      t.HasUnsignedValues values.get? := by
    intro values v hv hv' name hname
    rw [List.mem_singleton.mp hname]
    use v
  refine ⟨?_, ?_, ?_⟩
  · apply ((evaluate_tree ht hs (by decide)).1 2).mpr
    refine ⟨hunsigned _ 0.5 (by rfl) (by decide +kernel), by decide, by decide +kernel⟩
  · apply (evaluate_tree ht hs (by decide)).2.2 ['a'] (by decide) (-1) (by rfl)
    decide +kernel
  · apply (evaluate_tree ht hs (by decide)).2.1
    · apply hunsigned _ 0 (by rfl)
      decide +kernel
    · decide
    · decide +kernel

end Reckoner
