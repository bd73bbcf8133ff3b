import Reckoner.Proofs.Evaluation.Leftovers
import Reckoner.Proofs.Expression.Partition

/-!
# Substitution a second time

A substitution of finite values leaves nothing for a second one to do. In textual mode this needs an
argument, because each name is replaced in a text that the names before it have changed. But a value
has no letters, so that every run of letters in a result was already there before, and a name that
is gone does not come back. In token mode the values keep the names apart that are left over.
-/

namespace Reckoner

variable {entries : List (Text × Number)} {s : Text} {b : Bindings} {mode : Mode}

/-! ### Textual substitution -/

/-- None of the names that are replaced by finite values occurs in the result. -/
theorem not_infix_replaceEach (h : ∀ e ∈ entries, IsName e.1 ∧ e.2.IsFinite) (s : Text) :
  ∀ e ∈ entries, ¬e.1 <:+: replaceEach entries s
  := by
  induction entries generalizing s with
  | nil => apply List.forall_mem_nil
  | cons e entries ih =>
    rw [List.forall_mem_cons] at h ⊢
    obtain ⟨he, hfinite⟩ := h.1
    constructor
    · -- The first name is gone at once, and later replacements do not bring it back.
      apply mt
        (infix_of_infix_replaceEach fun e' he' => he.not_mem_of_mem_spell (h.2 e' he').2)
      apply Text.not_infix_replace he.1 (Number.spell_ne_nil e.2)
        (he.not_mem_of_mem_spell hfinite)
    · apply ih h.2

/-! ### Substitution of tokens -/

/-- No blank character is left by a substitution of tokens. -/
theorem isBlank_of_mem_substituteTokens :
  ∀ c ∈ substituteTokens b s, isBlank c = false
  := by
  intro c hc
  obtain ⟨t, ht, hc⟩ := List.mem_flatMap.mp hc
  rw [Token.substitute] at hc
  split at hc
  · apply Number.isBlank_of_mem_spell hc
  · apply isBlank_of_mem_strip
    rw [← flatMap_spelling_tokens]
    apply List.mem_flatMap.mpr ⟨t, ht, hc⟩

/-- The names in a result have no values. -/
theorem get?_eq_none_of_mem_substituteTokens (hfinite : b.IsFinite)
    (hblank : ∀ c ∈ s, isBlank c = false) :
  ∀ name ∈ variableNames (substituteTokens b s), b.get? name = none
  := by
  intro name hname
  rw [← mem_nameRuns, nameRuns_substituteTokens hfinite hblank, List.mem_filter,
    decide_eq_true_eq] at hname
  apply hname.2

/-- A second substitution of tokens finds no name that has a value. -/
theorem substituteTokens_substituteTokens (hfinite : b.IsFinite)
    (hblank : ∀ c ∈ s, isBlank c = false) :
  substituteTokens b (substituteTokens b s) = substituteTokens b s
  := by
  rw [substituteTokens_eq_strip (get?_eq_none_of_mem_substituteTokens hfinite hblank),
    Text.strip_eq_self_iff]
  apply isBlank_of_mem_substituteTokens

/-! ### Both kinds -/

/-- A substitution keeps the characters that are not letters, in their order. -/
theorem filter_sublist_substitute (hb : b.IsWellNamed) (hblank : ∀ c ∈ s, isBlank c = false) :
  (s.filter fun c => !isLetter c).Sublist (substitute mode b s)
  := by
  induction s using Text.runInduction with
  | nil => apply List.nil_sublist
  | cons c s hc ih =>
    rw [List.forall_mem_cons] at hblank
    rw [List.filter_cons_of_pos (by rw [hc]; rfl), substitute_cons hb hblank.1 hc,
      List.cons_sublist_cons]
    apply ih hblank.2
  | run run s hrun hs ih =>
    have hnone : run.filter (fun c => !isLetter c) = [] := by
      rw [List.filter_eq_nil_iff]
      intro c hc
      rw [hrun.2 c hc]
      apply Bool.false_ne_true
    rw [List.forall_mem_append] at hblank
    rw [List.filter_append, hnone, List.nil_append, substitute_append hb]
    · apply (ih hblank.2).trans (List.sublist_append_right _ _)
    · intro c hc
      use hblank.2 c (List.mem_of_mem_head? hc), hs c hc

/-- Substitution of finite values is complete. A second substitution changes nothing. None of the
names with a value occurs in the result of a textual one, and none is a token in the result of one
of tokens. All characters that are not letters are still there, in their order. -/
theorem substitute_complete (hs : s.strip = s) (hb : b.IsWellNamed) (hfinite : b.IsFinite) :
  (∀ mode, substitute mode b (substitute mode b s) = substitute mode b s)
    ∧ (∀ name, (b.get? name).isSome → ¬name <:+: substitute .textual b s)
    ∧ (∀ name, (b.get? name).isSome → .name name ∉ tokens (substitute .token b s))
    ∧ ∀ mode, (s.filter fun c => !isLetter c).Sublist (substitute mode b s)
  := by
  have hblank := Text.strip_eq_self_iff.mp hs
  have hentries : ∀ e ∈ b.entries, IsName e.1 ∧ e.2.IsFinite :=
    fun e he => ⟨hb e he, Bindings.isFinite_iff.mp hfinite e he⟩
  have hgone := not_infix_replaceEach hentries s
  refine ⟨?_, ?_, ?_, ?_⟩
  · intro mode
    cases mode with
    | textual => apply replaceEach_eq_self hgone
    | token => apply substituteTokens_substituteTokens hfinite hblank
  · intro name hname
    obtain ⟨v, hv⟩ := Option.isSome_iff_exists.mp hname
    apply hgone (name, v) (Bindings.mem_of_get? hv)
  · intro name hname hmem
    have hnone := get?_eq_none_of_mem_substituteTokens hfinite hblank name
      (mem_variableNames.mpr hmem)
    rw [hnone] at hname
    cases hname
  · intro mode
    apply filter_sublist_substitute hb hblank

/-- The name `aa` overlaps itself in `aaa`, and `ab` is what it leaves of `aaab`. -/
theorem substitute_complete_overlapping :
  substitute .textual (.ofList [(['a', 'a'], 2), (['a', 'b'], -1)])
      (substitute .textual (.ofList [(['a', 'a'], 2), (['a', 'b'], -1)]) ['a', 'a', 'a', 'b'])
      = ['2', '.', '0', '-', '1', '.', '0']
    ∧ ¬['a', 'b'] <:+: substitute .textual (.ofList [(['a', 'a'], 2), (['a', 'b'], -1)])
      ['a', 'a', 'a', 'b']
    ∧ .name ['a', 'b'] ∉ tokens (substitute .token (.ofList [(['a', 'a'], 2), (['a', 'b'], -1)])
      ['a', 'a', 'a', 'b', '+', 'a', 'b'])
    ∧ ['+'].Sublist (substitute .token (.ofList [(['a', 'a'], 2), (['a', 'b'], -1)])
      ['a', 'a', 'a', 'b', '+', 'a', 'b'])
  := by
  have hb : (Bindings.ofList [(['a', 'a'], 2), (['a', 'b'], -1)]).IsWellNamed := by
    rw [Bindings.IsWellNamed]
    decide +kernel
  have hfinite : (Bindings.ofList [(['a', 'a'], 2), (['a', 'b'], -1)]).IsFinite := by
    rw [Bindings.isFinite_iff]
    decide +kernel
  refine ⟨?_, ?_, ?_, ?_⟩
  · rw [(substitute_complete (by decide) hb hfinite).1]
    decide +kernel
  · apply (substitute_complete (by decide) hb hfinite).2.1
    rfl
  · apply (substitute_complete (by decide) hb hfinite).2.2.1
    rfl
  · have hplus : ['+'] = ['a', 'a', 'a', 'b', '+', 'a', 'b'].filter fun c => !isLetter c := by
      decide +kernel
    rw [hplus]
    apply (substitute_complete (by decide) hb hfinite).2.2.2

end Reckoner
