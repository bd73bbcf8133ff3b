import Reckoner.Proofs.Evaluation.Collision
import Reckoner.Proofs.Expression.Instantiation
import Reckoner.Proofs.Expression.Runs

/-!
# Values that are not finite

A value that is not finite is written in letters, and a text with a letter in it has no value. So a
formula has no value either if one of its names is replaced by such a value, as it always is in
token mode.

In textual mode the letters may be lost. The name may be torn by one that collides with it before
its own turn comes, so that its value is never put in; and names that come later may occur in the
text of the value itself. Nothing else can happen to a name that stands alone in the expression.
-/

namespace Reckoner

variable {before run after s name : Text} {v : Number} {mode : Mode} {b : Bindings} {f : Formula}

/-- A substitution works on a run that stands alone apart from what is around it. -/
theorem StandsAlone.substitute_eq (h : StandsAlone before run after) (hb : b.IsWellNamed)
    (hblank : ∀ c ∈ before ++ run ++ after, isBlank c = false) :
  substitute mode b (before ++ run ++ after)
    = substitute mode b before ++ substitute mode b run ++ substitute mode b after
  := by
  rw [List.forall_mem_append, List.forall_mem_append] at hblank
  have hafter : ∀ c ∈ after.head?, isBlank c = false ∧ isLetter c = false :=
    fun c hc => ⟨hblank.2 c (List.mem_of_mem_head? hc), h.after c hc⟩
  rw [substitute_append hb (before ++ run) hafter]
  cases before using List.reverseRecOn with
  | nil => rw [substitute_nil hb, List.nil_append, List.nil_append]
  | append_singleton init c =>
    have hc : isBlank c = false := hblank.1.1 c (List.mem_append_right _ List.mem_cons_self)
    have hletter := h.before c List.getLast?_concat
    rw [List.append_assoc init, List.singleton_append, substitute_append_cons hb hc hletter,
      substitute_append_cons hb hc hletter, substitute_nil hb]
    simp only [List.append_assoc, List.cons_append, List.nil_append]

/-- A name with which no other collides is replaced by its value, which remains if no name that
comes later occurs in it. In token mode this is so in any case. -/
theorem substitute_name (hb : b.IsWellNamed) (hv : b.get? name = some v)
    (hapart : mode = .textual → ∀ e ∈ b.entries, ¬Collide e.1 name)
    (hspell : mode = .textual → ∀ e ∈ b.entries, name < e.1 → ¬e.1 <:+: v.spell) :
  substitute mode b name = v.spell
  := by
  cases mode with
  | textual => apply replaceEach_name hb hv (hapart rfl) (hspell rfl)
  | token =>
    rw [substitute, substituteTokens_name b (hb _ (Bindings.mem_of_get? hv)),
      substitute_name_of_get? hv]

/-- A text with a letter in it has no value. -/
theorem exists_error_of_isLetter {c : Char} (hc : c ∈ s) (hletter : isLetter c) :
  ∃ e, reduce s = .error e
  := by
  cases hreduce : reduce s with
  | error e => exact ⟨e, rfl⟩
  | ok w =>
    obtain ⟨t, ht, -⟩ := Tree.exists_isReading_of_reduce hreduce
    rw [ht.isLetter_of_mem hc] at hletter
    cases hletter

/-- A formula with a name whose value is not finite has no value itself. In textual mode this
requires that no other name collides with the name, and that the names that come after it do not
occur in the text of its value. -/
theorem exists_error_of_not_isFinite (hb : f.bindings.IsWellNamed)
    (hname : name ∈ variableNames f.expression) (hv : f.value? name = some v)
    (hfinite : ¬v.IsFinite)
    (hapart : f.mode = .textual → ∀ e ∈ f.bindings.entries, ¬Collide e.1 name)
    (hspell : f.mode = .textual → ∀ e ∈ f.bindings.entries, name < e.1 → ¬e.1 <:+: v.spell) :
  ∃ e, f.evaluate = .error e
  := by
  obtain ⟨c, hc, hletter⟩ := Number.exists_isLetter_of_not_isFinite hfinite
  apply exists_error_of_isLetter _ hletter
  rw [← mem_nameRuns, mem_nameRuns_iff] at hname
  obtain ⟨before, after, hexpression, halone⟩ := hname
  have hblank : ∀ c ∈ before ++ name ++ after, isBlank c = false := by
    rw [← hexpression]
    apply Text.strip_eq_self_iff.mp f.strip_expression
  rw [hexpression, halone.substitute_eq hb hblank, substitute_name hb hv hapart hspell]
  apply List.mem_append_left _ (List.mem_append_right _ hc)

/-- In textual mode `b` is a part of `ab` that comes after it; in token mode collisions and names
like `inf` do no harm. -/
theorem exists_error_of_not_isFinite_part :
  (∃ e, Formula.evaluate ⟨['2', '*', 'a', 'b', '+', 'b'],
      .ofList [(['a', 'b'], .ofPattern true Number.infinity), (['b'], 3)], .textual, rfl⟩
        = .error e)
    ∧ ∃ e, Formula.evaluate ⟨['a', 'b'],
      .ofList [(['a'], 1), (['a', 'b'], .ofPattern false Number.infinity), (['b'], -1),
        (['i', 'n', 'f'], 5)], .token, rfl⟩ = .error e
  := by
  constructor
  · have hv : Formula.value? ⟨['2', '*', 'a', 'b', '+', 'b'],
        .ofList [(['a', 'b'], .ofPattern true Number.infinity), (['b'], 3)], .textual, rfl⟩
          ['a', 'b'] = some (.ofPattern true Number.infinity) := by
      decide +kernel
    apply exists_error_of_not_isFinite (by decide +kernel) (by decide +kernel) hv
    · decide +kernel
    · decide +kernel
    · decide +kernel
  · have hv : Formula.value? ⟨['a', 'b'],
        .ofList [(['a'], 1), (['a', 'b'], .ofPattern false Number.infinity), (['b'], -1),
          (['i', 'n', 'f'], 5)], .token, rfl⟩
          ['a', 'b'] = some (.ofPattern false Number.infinity) := by
      decide +kernel
    apply exists_error_of_not_isFinite (by decide +kernel) (by decide +kernel) hv
    · decide +kernel
    · intro hmode
      cases hmode
    · intro hmode
      cases hmode

/-- A formula can have a value although one of its names has a value that is not finite: the names
`a` and `b` are replaced within the name `ab`, and no letter of it remains. -/
theorem not_forall_exists_error :
  ¬∀ (f : Formula) (name : Text) (v : Number), f.bindings.IsWellNamed →
    name ∈ variableNames f.expression → f.value? name = some v → ¬v.IsFinite →
    ∃ e, f.evaluate = .error e
  := by
  intro hall
  obtain ⟨e, he⟩ := hall
    ⟨['a', 'b'], .ofList [(['a'], 1), (['a', 'b'], .ofPattern false Number.infinity),
      (['b'], -1)], .textual, rfl⟩
    ['a', 'b'] (.ofPattern false Number.infinity) (by decide +kernel) (by decide +kernel)
    (by decide +kernel) (by decide +kernel)
  have hvalue : Formula.evaluate ⟨['a', 'b'], .ofList [(['a'], 1),
      (['a', 'b'], .ofPattern false Number.infinity), (['b'], -1)], .textual, rfl⟩ = .ok 0 := by
    decide +kernel
  rw [hvalue] at he
  cases he

end Reckoner
