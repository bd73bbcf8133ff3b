import Reckoner.Proofs.Evaluation.Collision

/-!
# When the two modes agree

The modes of substitution have the same result if and only if no two names of the expression
collide, provided that all values are finite. An expression without collisions is then evaluated
alike in both modes. Blank characters between letters are left out of account, since the names of an
expression are read before it is stripped.
-/

namespace Reckoner

/-- Some name of a list collides with another one. -/
def HasCollision (names : List Text) : Prop :=
  ∃ k ∈ names, ∃ k' ∈ names, Collide k k'

instance : DecidablePred HasCollision := fun names =>
  inferInstanceAs (Decidable (∃ k ∈ names, ∃ k' ∈ names, Collide k k'))

variable {s : Text}

/-- The modes of substitution agree on the values of the names of an expression if and only if the
names do not collide. -/
theorem substitute_textual_eq_token_iff (hs : LettersTogether s) {b : Bindings}
    (hkeys : ∀ name, (b.get? name).isSome ↔ name ∈ variableNames s) (hfinite : b.IsFinite) :
  substitute .textual b s.strip = substitute .token b s.strip ↔ ¬HasCollision (variableNames s)
  := by
  have hmem : ∀ name, name ∈ nameRuns s.strip ↔ name ∈ variableNames s := by
    intro name
    rw [nameRuns_strip hs, mem_nameRuns]
  have hentries : ∀ e ∈ b.entries, e.1 ∈ variableNames s := by
    intro e he
    rw [← hkeys, Bindings.get?_of_mem he]
    rfl
  have hb : b.IsWellNamed := by
    intro e he
    apply (isName_of_mem_nameRuns (mem_nameRuns.mpr (hentries e he))).1
  have hnames : ∀ name ∈ nameRuns s.strip, (b.get? name).isSome := by
    intro name hname
    apply (hkeys name).mpr ((hmem name).mp hname)
  constructor
  · rintro heq ⟨k, hk, k', hk', hcollide⟩
    obtain ⟨v, hv⟩ := Option.isSome_iff_exists.mp ((hkeys k).mpr hk)
    apply replaceEach_ne_substituteTokens hb hfinite hnames ((hmem k').mpr hk')
      (Bindings.mem_of_get? hv) hcollide heq
  · intro hnone
    apply replaceEach_eq_substituteTokens hb hfinite isBlank_of_mem_strip hnames
    intro name hname e he hcollide
    apply hnone ⟨e.1, hentries e he, name, (hmem name).mp hname, hcollide⟩

/-- The two modes of substitution have the same result for all tables of finite values of the names
of an expression if no two of the names collide, and for none of them otherwise. Without a collision
the modes have the same outcome of every evaluation in which the values of the names are finite. -/
theorem modes_agree_iff (hs : LettersTogether s) :
  (∀ b : Bindings, (∀ name, (b.get? name).isSome ↔ name ∈ variableNames s) → b.IsFinite →
      (substitute .textual b s.strip = substitute .token b s.strip
        ↔ ¬HasCollision (variableNames s)))
    ∧ (¬HasCollision (variableNames s) → ∀ values : Bindings,
        (∀ name ∈ variableNames s, ∀ v, values.get? name = some v → v.IsFinite) →
        evaluate .textual values s = evaluate .token values s)
  := by
  refine ⟨fun b hkeys hfinite => substitute_textual_eq_token_iff hs hkeys hfinite, ?_⟩
  intro hnone values hvalues
  by_cases hvalid : isValid s
  · rw [evaluate_eq hvalid, evaluate_eq hvalid]
    cases hcollect : values.collect .empty (variableNames s) with
    | error e => rfl
    | ok b =>
      have hkeys := Bindings.isSome_get?_of_collect_iff hcollect
      have hfinite : b.IsFinite := by
        intro name v hv
        have hname : name ∈ variableNames s := by
          rw [← hkeys, hv]
          rfl
        rw [Bindings.get?_of_collect hcollect, if_pos hname] at hv
        apply hvalues name hname v hv
      have hsubstitute := (substitute_textual_eq_token_iff hs hkeys hfinite).mpr hnone
      change Except.mapError _ (reduce _) = Except.mapError _ (reduce _)
      rw [hsubstitute]
  · rw [evaluate, evaluate, if_neg hvalid, if_neg hvalid]

/-- The modes do not substitute values of `a` and `ab` alike in `a+ab`, since the one name is a part
of the other. They evaluate `a+b` alike for all finite values. -/
theorem modes_agree_iff_sum :
  substitute .textual (.ofList [(['a'], 1), (['a', 'b'], 2)]) ['a', '+', 'a', 'b']
      ≠ substitute .token (.ofList [(['a'], 1), (['a', 'b'], 2)]) ['a', '+', 'a', 'b']
    ∧ ∀ values : Bindings, values.IsFinite →
        evaluate .textual values ['a', '+', 'b'] = evaluate .token values ['a', '+', 'b']
  := by
  constructor
  · have hs : LettersTogether ['a', '+', 'a', 'b'] := lettersTogether_of_strip (by decide)
    have hnames : variableNames ['a', '+', 'a', 'b'] = [['a'], ['a', 'b']] := by decide +kernel
    have hentries : (Bindings.ofList [(['a'], 1), (['a', 'b'], 2)]).entries
        = [(['a'], 1), (['a', 'b'], 2)] := rfl
    intro heq
    apply ((modes_agree_iff hs).1 _ _ _).mp heq
    · decide +kernel
    · intro name
      rw [hnames, Bindings.get?, List.lookup_isSome_iff, hentries]
      simp
    · intro name v hv
      have hmem := Bindings.mem_of_get? hv
      rw [hentries] at hmem
      simp only [List.mem_cons, Prod.mk.injEq, List.not_mem_nil, or_false] at hmem
      rcases hmem with ⟨-, rfl⟩ | ⟨-, rfl⟩
      · decide +kernel
      · decide +kernel
  · intro values hvalues
    have hs : LettersTogether ['a', '+', 'b'] := lettersTogether_of_strip (by decide)
    apply (modes_agree_iff hs).2
    · decide +kernel
    · intro name _
      apply hvalues name

end Reckoner
