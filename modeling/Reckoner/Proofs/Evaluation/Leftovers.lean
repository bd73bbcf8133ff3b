import Reckoner.Proofs.Evaluation.Blanks
import Reckoner.Proofs.Evaluation.Collision
import Reckoner.Proofs.Expression.Pieces
import Reckoner.Proofs.Number.Kind

/-!
# Names that are left over

A substitution of tokens by finite values leaves just those names in a text that have no value
(`nameRuns_substituteTokens`). In an evaluation these are the names that the expression has only
without its blank characters: where blank characters separate two letters, the expression has two
names, which have to have values, but what is reduced has a single one instead, which has none.
-/

namespace Reckoner

variable {s piece : Text} {b values : Bindings}

/-! ### Substitution -/

/-- Characters other than letters at the start of a text do not count for its names. -/
theorem nameRuns_append_of_isLetter (hs : ∀ c ∈ s, isLetter c = false) (t : Text) :
  nameRuns (s ++ t) = nameRuns t
  := by
  induction s with
  | nil => rfl
  | cons c s ih =>
    rw [List.forall_mem_cons] at hs
    rw [List.cons_append, nameRuns_cons hs.1, ih hs.2]

/-- A substitution keeps a character at the start that is neither blank nor a letter. -/
theorem isLetter_of_mem_head?_substituteTokens (b : Bindings) (hblank : ∀ c ∈ s, isBlank c = false)
    (hs : ∀ c ∈ s.head?, isLetter c = false) :
  ∀ c ∈ (substituteTokens b s).head?, isLetter c = false
  := by
  cases s with
  | nil =>
    intro c hc
    cases hc
  | cons c s =>
    rw [substituteTokens_cons b (hblank c List.mem_cons_self) (hs c rfl)]
    apply hs

/-- The names that remain after a substitution of finite values are those without a value. -/
theorem nameRuns_substituteTokens (hb : b.IsFinite) (hblank : ∀ c ∈ s, isBlank c = false) :
  nameRuns (substituteTokens b s) = (nameRuns s).filter fun name => b.get? name = none
  := by
  induction s using Text.runInduction with
  | nil => rfl
  | cons c s hc ih =>
    rw [List.forall_mem_cons] at hblank
    rw [substituteTokens_cons b hblank.1 hc, nameRuns_cons hc, nameRuns_cons hc, ih hblank.2]
  | run run s hrun hs ih =>
    have hblank' : ∀ c ∈ s, isBlank c = false := fun c hc => hblank c (List.mem_append_right run hc)
    rw [substituteTokens_append b hrun hs, nameRuns_append hrun hs]
    cases hrunValue : b.get? run with
    | none =>
      have hkeep : Token.substitute b (.name run) = run := by
        rw [Token.substitute, Token.name?, Option.bind_some, hrunValue]
        rfl
      rw [hkeep, nameRuns_append hrun (isLetter_of_mem_head?_substituteTokens b hblank' hs),
        ih hblank', List.filter_cons_of_pos (by simpa using hrunValue)]
    | some v =>
      have hletter : ∀ c ∈ v.spell, isLetter c = false :=
        fun c => Number.isLetter_of_mem_spell (hb run v hrunValue)
      rw [substitute_name_of_get? hrunValue, nameRuns_append_of_isLetter hletter, ih hblank',
        List.filter_cons_of_neg (by simp [hrunValue])]

/-! ### Evaluation -/

/-- The values that an evaluation collects are those of the names of the expression. -/
theorem isFinite_of_collect (hb : values.collect .empty (variableNames s) = .ok b)
    (hvalues : ∀ name ∈ variableNames s, ∃ v, values.get? name = some v ∧ v.isFinite) :
  b.IsFinite
  := by
  intro name v hv
  rw [Bindings.get?_of_collect hb] at hv
  split at hv
  · rename_i hname
    obtain ⟨w, hw, hfinite⟩ := hvalues name hname
    rw [hv] at hw
    obtain rfl := Option.some.inj hw
    apply Number.isFinite_iff.mp hfinite
  · cases hv

/-- If all names of an expression have finite values and its evaluation in token mode ends at a
malformed piece, then each name in this piece is one of the expression without blank characters, but
none of the expression as it is given. Unless blank characters separate two letters there is no such
name, and no letter in the piece. -/
theorem evaluate_leftovers
    (hvalues : ∀ name ∈ variableNames s, ∃ v, values.get? name = some v ∧ v.isFinite)
    (h : evaluate .token values s = .error (.reduction (.malformed piece))) :
  (∀ name ∈ variableNames piece, name ∈ variableNames s.strip ∧ name ∉ variableNames s)
    ∧ (LettersTogether s → ∀ c ∈ piece, isLetter c = false)
  := by
  have hvalid : isValid s := by
    by_contra hinvalid
    rw [evaluate_of_not_isValid (Bool.not_eq_true _ ▸ hinvalid)] at h
    cases h
  have hleftover : ∀ name ∈ nameRuns piece, name ∈ nameRuns s.strip ∧ name ∉ variableNames s := by
    rcases (evaluate_eq_error_iff hvalid).mp h with ⟨_, -, hmissing⟩ | ⟨b, cause, hb, hreduce, he⟩
    · cases hmissing
    · -- A name that is left over is one of the stripped text for which no value was collected.
      obtain rfl := EvaluationError.reduction.inj he
      intro name hname
      have hmem : name ∈ nameRuns (substituteTokens b s.strip) :=
        mem_nameRuns_of_reduce hreduce hname
      rw [nameRuns_substituteTokens (isFinite_of_collect hb hvalues) isBlank_of_mem_strip,
        List.mem_filter, decide_eq_true_eq] at hmem
      use hmem.1
      rw [← Bindings.isSome_get?_of_collect_iff hb, hmem.2]
      apply Bool.false_ne_true
  simp only [← mem_nameRuns] at hleftover ⊢
  use hleftover
  intro hs
  rw [← nameRuns_eq_nil_iff, List.eq_nil_iff_forall_not_mem]
  intro name hname
  obtain ⟨hmem, hnot⟩ := hleftover name hname
  rw [nameRuns_strip hs] at hmem
  apply hnot hmem

/-- The name `ab`, which the evaluation of `a b` leaves over, is none of the names of this
expression. The piece `1..`, which that of `a +1..` reports, has no letters. -/
theorem evaluate_leftovers_joined :
  (∀ name ∈ variableNames ['a', 'b'], name ∉ variableNames ['a', ' ', 'b'])
    ∧ ∀ c ∈ ['1', '.', '.'], isLetter c = false
  := by
  constructor
  · have h : evaluate .token (.ofList [(['a'], 1), (['b'], 2)]) ['a', ' ', 'b']
        = .error (.reduction (.malformed ['a', 'b'])) := by decide +kernel
    have hvalues : ∀ name ∈ variableNames ['a', ' ', 'b'],
        ∃ v, (Bindings.ofList [(['a'], 1), (['b'], 2)]).get? name = some v ∧ v.isFinite := by
      rw [show variableNames ['a', ' ', 'b'] = [['a'], ['b']] by decide +kernel]
      simp only [List.forall_mem_cons]
      refine ⟨⟨1, rfl, by decide +kernel⟩, ⟨2, rfl, by decide +kernel⟩, List.forall_mem_nil _⟩
    intro name hname
    apply ((evaluate_leftovers hvalues h).1 name hname).2
  · have h : evaluate .token (.ofList [(['a'], 1)]) ['a', ' ', '+', '1', '.', '.']
        = .error (.reduction (.malformed ['1', '.', '.'])) := by decide +kernel
    have hvalues : ∀ name ∈ variableNames ['a', ' ', '+', '1', '.', '.'],
        ∃ v, (Bindings.ofList [(['a'], 1)]).get? name = some v ∧ v.isFinite := by
      rw [show variableNames ['a', ' ', '+', '1', '.', '.'] = [['a']] by decide +kernel]
      simp only [List.forall_mem_cons]
      refine ⟨⟨1, rfl, by decide +kernel⟩, List.forall_mem_nil _⟩
    apply (evaluate_leftovers hvalues h).2 (lettersTogether_of_countP_le_one (by decide +kernel))

/-- Letters can be left over although all names have values: the evaluation of `a b` asks for values
of `a` and `b`, but then lacks one of `ab`. -/
theorem not_forall_isLetter_of_malformed :
  ¬∀ (s piece : Text) (values : Bindings), isValid s →
    (∀ name ∈ variableNames s,
      ∃ v, values.get? name = some v ∧ v.isFinite ∧ v.isNegative = false) →
    evaluate .token values s = .error (.reduction (.malformed piece)) →
    ∀ c ∈ piece, isLetter c = false
  := by
  intro hall
  have hletter : isLetter 'a' = false := by
    apply hall ['a', ' ', 'b'] ['a', 'b'] (.ofList [(['a'], 1), (['b'], 2)])
    · decide +kernel
    · rw [show variableNames ['a', ' ', 'b'] = [['a'], ['b']] by decide +kernel]
      simp only [List.forall_mem_cons]
      refine ⟨⟨1, rfl, by decide +kernel⟩, ⟨2, rfl, by decide +kernel⟩, List.forall_mem_nil _⟩
    · decide +kernel
    · apply List.mem_cons_self
  revert hletter
  decide +kernel

end Reckoner
