import Reckoner.Proofs.Evaluation.Relevance
import Reckoner.Proofs.Number.Kind

/-!
# Formulas that agree

Formulas agree if they have the same expression, mode and names and if their values are equal as
numbers. The two zeros are equal in this sense but are written differently, so that formulas that
agree need not have the same outcome. Nothing else can set them apart: equal numbers other than
zeros are the same, and a zero matters only if the formula meets its name.
-/

namespace Reckoner

variable {f g : Formula}

/-- Tables that agree have equal values for the same names. -/
theorem rel_lookup {entries entries' : List (Text × Number)}
    (hnames : entries.map Prod.fst = entries'.map Prod.fst)
    (hvalues : (entries.zip entries').all fun (x, y) => x.2 == y.2) (name : Text) :
  Option.Rel (fun v w => v == w) (entries.lookup name) (entries'.lookup name)
  := by
  induction entries generalizing entries' with
  | nil =>
    rw [List.map_nil, eq_comm, List.map_eq_nil_iff] at hnames
    rw [hnames]
    apply Option.Rel.none
  | cons e entries ih =>
    obtain ⟨e', entries', rfl, hname, hnames'⟩ := List.map_eq_cons_iff.mp hnames.symm
    rw [List.zip_cons_cons, List.all_cons, Bool.and_eq_true] at hvalues
    rw [List.lookup_cons, List.lookup_cons, hname]
    split
    · have heq : e.2 == e'.2 := hvalues.1
      apply Option.Rel.some (r := fun v w : Number => v == w) heq
    · apply ih hnames'.symm hvalues.2

/-- Tables that agree have equal values for the same names. -/
theorem Bindings.rel_get?_of_agree {a b : Bindings} (h : a.agree b) (name : Text) :
  Option.Rel (fun v w => v == w) (a.get? name) (b.get? name)
  := by
  rw [agree, Bool.and_eq_true, beq_iff_eq] at h
  apply rel_lookup h.1 h.2

/-- Two outcomes agree if they are equal numbers, both no number, or the same error. -/
def OutcomesAgree : Except ReductionError Number → Except ReductionError Number → Prop
  | .ok v, .ok w => v == w ∨ v.isNaN ∧ w.isNaN
  | .error e, .error e' => e = e'
  | _, _ => False

/-- Formulas that agree have the same outcome, unless a name that the formula meets has zeros of
different signs in them. -/
theorem evaluate_of_agree (h : f.agree g)
    (hzero : ∀ name v w, f.Meets name → f.value? name = some v → g.value? name = some w →
      v == 0.0 → v.isNegative = w.isNegative) :
  f.evaluate = g.evaluate
  := by
  rw [Formula.agree, Bool.and_eq_true, Bool.and_eq_true, beq_iff_eq, beq_iff_eq] at h
  obtain ⟨⟨hexpression, hmode⟩, hbindings⟩ := h
  apply Formula.evaluate_eq_of_meets hexpression hmode
  intro name hmeets
  have hrel : Option.Rel (fun v w => v == w) (f.value? name) (g.value? name) :=
    Bindings.rel_get?_of_agree hbindings name
  have hsign := fun v w => hzero name v w hmeets
  generalize f.value? name = v? at hrel hsign ⊢
  generalize g.value? name = w? at hrel hsign ⊢
  cases hrel with
  | none => rfl
  | some heq => rw [Number.eq_of_beq heq (hsign _ _ rfl rfl)]

/-- Zeros of different signs for `z`, which the formula does not meet, and the same one for `y`. -/
theorem evaluate_of_agree_quotient :
  Formula.evaluate ⟨['x', '/', 'y'], .ofList [(['x'], 1.5), (['y'], 0), (['z'], 0)], .textual, rfl⟩
    = .error .divisionByZero
  := by
  have h : Formula.agree
      ⟨['x', '/', 'y'], .ofList [(['x'], 1.5), (['y'], 0), (['z'], 0)], .textual, rfl⟩
      ⟨['x', '/', 'y'], .ofList [(['x'], 1.5), (['y'], 0), (['z'], -0)], .textual, rfl⟩ := by
    decide +kernel
  have hsign : ∀ e ∈ (Bindings.ofList [(['x'], 1.5), (['y'], 0), (['z'], 0)]).entries,
      ∀ e' ∈ (Bindings.ofList [(['x'], 1.5), (['y'], 0), (['z'], -0)]).entries,
      e.1 = e'.1 → e.1 ≠ ['z'] → e.2.isNegative = e'.2.isNegative := by
    decide +kernel
  rw [evaluate_of_agree h]
  · decide +kernel
  · intro name v w hmeets hv hw _
    apply hsign (name, v) (Bindings.mem_of_get? hv) (name, w) (Bindings.mem_of_get? hw) rfl
    rintro rfl
    revert hmeets
    decide +kernel

/-- Formulas that agree need not have outcomes that agree: the negative zero is written with a sign,
in front of which the expression has nothing. -/
theorem not_forall_outcomesAgree :
  ¬∀ f g : Formula, f.agree g → OutcomesAgree f.evaluate g.evaluate
  := by
  intro hall
  have h := hall ⟨['x'], .ofList [(['x'], 0)], .token, rfl⟩
    ⟨['x'], .ofList [(['x'], -0)], .token, rfl⟩ (by decide +kernel)
  have hleft : Formula.evaluate ⟨['x'], .ofList [(['x'], 0)], .token, rfl⟩ = .ok 0 := by
    decide +kernel
  have hright : Formula.evaluate ⟨['x'], .ofList [(['x'], -0)], .token, rfl⟩
      = .error (.malformed []) := by
    decide +kernel
  rw [hleft, hright] at h
  exact h

end Reckoner
