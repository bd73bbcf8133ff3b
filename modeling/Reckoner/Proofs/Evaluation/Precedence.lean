import Reckoner.Proofs.Evaluation.Values
import Reckoner.Proofs.Expression.Reduction

/-!
# What an evaluation depends on

An evaluation looks up the names of its expression in the table that it is given and no others, so
that tables which agree on these names have the same outcome. Of the errors an expression that is
not valid comes first, whatever the table is, then the first name without a value, and only an
expression that is valid and has all its values is reduced.
-/

namespace Reckoner

variable {s : Text} {mode : Mode}

namespace Bindings

variable {values values' b : Bindings} {names : List Text}

/-- Two tables agree on some names if they have the same values for these, or none. -/
def AgreeOn (names : List Text) (values values' : Bindings) : Prop :=
  ∀ name ∈ names, values.get? name = values'.get? name

/-- A name is the first missing one of some names if it has no value and all those before it have
one. -/
structure IsFirstMissing (values : Bindings) (names : List Text) (name : Text) : Prop where
  mem : name ∈ names
  get?_eq_none : values.get? name = none
  isSome_of_lt : ∀ other ∈ names, other < name → (values.get? other).isSome

/-- New values of other names do not matter. -/
theorem agreeOn_insert {name : Text} (h : name ∉ names) (v : Number) :
  AgreeOn names (values.insert name v) values
  := by
  intro other hother
  apply get?_insert_of_ne
  rintro rfl
  apply h hother

/-- The values of names are collected alike from tables that agree on the names. -/
theorem AgreeOn.collect_eq (h : AgreeOn names values values') :
  values.collect b names = values'.collect b names
  := by
  induction names generalizing b with
  | nil => rfl
  | cons first rest ih =>
    rw [collect, collect, h first List.mem_cons_self]
    cases values'.get? first with
    | none => rfl
    | some v => apply ih fun name hname => h name (List.mem_cons_of_mem first hname)

/-! ### The first missing name -/

/-- The first of ascending names is the first missing one if it has no value. -/
theorem isFirstMissing_cons_self {first : Text} {rest : List Text}
    (h : (first :: rest).Pairwise (· < ·)) (hfirst : values.get? first = none) :
  values.IsFirstMissing (first :: rest) first
  := by
  use List.mem_cons_self, hfirst
  intro other hother hlt
  rcases List.mem_cons.mp hother with rfl | hother
  · cases List.lt_irrefl _ hlt
  · cases List.lt_asymm hlt (List.rel_of_pairwise_cons h hother)

/-- Names before the first missing one need not be considered. -/
theorem isFirstMissing_cons_iff {first name : Text} {rest : List Text}
    (hfirst : (values.get? first).isSome) :
  values.IsFirstMissing (first :: rest) name ↔ values.IsFirstMissing rest name
  := by
  constructor
  · rintro ⟨hmem, hnone, hlt⟩
    refine ⟨?_, hnone, fun other hother => hlt other (List.mem_cons_of_mem first hother)⟩
    rcases List.mem_cons.mp hmem with rfl | hmem
    · rw [hnone] at hfirst
      cases hfirst
    · apply hmem
  · rintro ⟨hmem, hnone, hlt⟩
    use List.mem_cons_of_mem first hmem, hnone
    intro other hother
    rcases List.mem_cons.mp hother with rfl | hother
    · intro _
      apply hfirst
    · apply hlt other hother

/-- There is at most one first missing name. -/
theorem IsFirstMissing.unique {name name' : Text} (h : values.IsFirstMissing names name)
    (h' : values.IsFirstMissing names name') :
  name = name'
  := by
  by_contra hne
  rcases Decidable.em (name < name') with hlt | hlt
  · have hsome := h'.isSome_of_lt name h.mem hlt
    rw [h.get?_eq_none] at hsome
    cases hsome
  · have hsome := h.isSome_of_lt name' h'.mem (Text.lt_of_not_lt hlt hne)
    rw [h'.get?_eq_none] at hsome
    cases hsome

/-- A collection in ascending order fails at the first missing name. -/
theorem collect_eq_error_iff {e : EvaluationError} (h : names.Pairwise (· < ·)) :
  values.collect b names = .error e
    ↔ ∃ name, values.IsFirstMissing names name ∧ e = .missingVariable name
  := by
  induction names generalizing b with
  | nil =>
    constructor
    · intro herror
      cases herror
    · rintro ⟨name, hname, -⟩
      cases hname.mem
  | cons first rest ih =>
    rw [collect]
    cases hfirst : values.get? first with
    | none =>
      have hmissing := isFirstMissing_cons_self h hfirst
      constructor
      · intro herror
        use first, hmissing, (Except.error.inj herror).symm
      · rintro ⟨name, hname, rfl⟩
        rw [hname.unique hmissing]
    | some v =>
      have hsome : (values.get? first).isSome := by
        rw [hfirst]
        rfl
      simp only [isFirstMissing_cons_iff hsome]
      apply ih h.of_cons

end Bindings

/-! ### Outcomes of an evaluation -/

/-- An expression that is not valid is reported as it is given, whatever the values are. -/
theorem evaluate_of_not_isValid (h : isValid s = false) (values : Bindings) :
  evaluate mode values s = .error (.invalidExpression s)
  := by
  rw [evaluate, h]
  rfl

/-- The errors of a valid expression. -/
theorem evaluate_eq_error_iff {values : Bindings} {e : EvaluationError} (h : isValid s) :
  evaluate mode values s = .error e
    ↔ (∃ name, values.IsFirstMissing (variableNames s) name ∧ e = .missingVariable name)
      ∨ ∃ b cause, values.collect .empty (variableNames s) = .ok b
        ∧ reduce (substitute mode b s.strip) = .error cause ∧ e = .reduction cause
  := by
  rw [evaluate_eq h, bind_eq_error_iff, Bindings.collect_eq_error_iff (variableNames_ascending s)]
  simp only [mapError_eq_error_iff, eq_comm (b := e), exists_and_left]

/-- The reported expression is the one that is evaluated, and this one is not valid. -/
theorem evaluate_eq_invalidExpression_iff {values : Bindings} {expression : Text} :
  evaluate mode values s = .error (.invalidExpression expression)
    ↔ isValid s = false ∧ expression = s
  := by
  cases hvalid : isValid s with
  | false =>
    rw [evaluate_of_not_isValid hvalid]
    simp [eq_comm]
  | true =>
    rw [evaluate_eq_error_iff hvalid]
    simp

/-- The name that is reported for a valid expression is the first missing one of its names. -/
theorem evaluate_eq_missingVariable_iff {values : Bindings} {name : Text} (h : isValid s) :
  evaluate mode values s = .error (.missingVariable name)
    ↔ values.IsFirstMissing (variableNames s) name
  := by
  rw [evaluate_eq_error_iff h]
  simp

/-- With all its values a valid expression has the outcome of its formula, in which the names of the
expression have these values and no others have any. -/
theorem exists_evaluate_eq {values : Bindings} (h : isValid s)
    (hvalues : ∀ name, ¬values.IsFirstMissing (variableNames s) name) (mode : Mode) :
  ∃ b : Bindings, (∀ name, (b.get? name).isSome ↔ name ∈ variableNames s)
    ∧ Bindings.AgreeOn (variableNames s) b values
    ∧ evaluate mode values s
      = ({ Formula.ofText mode s with bindings := b } : Formula).evaluate.mapError .reduction
  := by
  cases hcollect : values.collect .empty (variableNames s) with
  | error e =>
    obtain ⟨name, hname, -⟩ :=
      (Bindings.collect_eq_error_iff (variableNames_ascending s)).mp hcollect
    cases hvalues name hname
  | ok b =>
    use b, Bindings.isSome_get?_of_collect_iff hcollect
    constructor
    · intro name hname
      rw [Bindings.get?_of_collect hcollect, if_pos hname]
    · rw [evaluate_eq h, hcollect]
      rfl

/-- Values that agree on the names of an expression evaluate it alike. -/
theorem Bindings.AgreeOn.evaluate_eq {values values' : Bindings}
    (h : AgreeOn (variableNames s) values values') (mode : Mode) :
  evaluate mode values s = evaluate mode values' s
  := by
  cases hvalid : isValid s with
  | false => rw [evaluate_of_not_isValid hvalid, evaluate_of_not_isValid hvalid]
  | true => rw [Reckoner.evaluate_eq hvalid, Reckoner.evaluate_eq hvalid, h.collect_eq]

/-- An evaluation fails for an expression that is not valid, whatever values there are, and else for
the first of its names without a value. If there is none then the outcome is that of a formula in
which the names of the expression have their values and no others have any. Tables that agree on
the names of the expression therefore have the same outcome, also if one has further entries. -/
theorem evaluate_outcome (mode : Mode) (s : Text) :
  (∀ values expression, evaluate mode values s = .error (.invalidExpression expression)
      ↔ isValid s = false ∧ expression = s)
    ∧ (isValid s → ∀ (values : Bindings) name,
        evaluate mode values s = .error (.missingVariable name)
          ↔ values.IsFirstMissing (variableNames s) name)
    ∧ (isValid s → ∀ values : Bindings, (∀ name, ¬values.IsFirstMissing (variableNames s) name) →
        ∃ b : Bindings, (∀ name, (b.get? name).isSome ↔ name ∈ variableNames s)
          ∧ Bindings.AgreeOn (variableNames s) b values
          ∧ evaluate mode values s
            = ({ Formula.ofText mode s with bindings := b } : Formula).evaluate.mapError .reduction)
    ∧ (∀ values values', Bindings.AgreeOn (variableNames s) values values' →
        evaluate mode values s = evaluate mode values' s)
    ∧ ∀ (values : Bindings) name v, name ∉ variableNames s →
        evaluate mode (values.insert name v) s = evaluate mode values s
  := by
  refine ⟨fun values expression => evaluate_eq_invalidExpression_iff, ?_, ?_, ?_, ?_⟩
  · intro hvalid values name
    apply evaluate_eq_missingVariable_iff hvalid
  · intro hvalid values hvalues
    apply exists_evaluate_eq hvalid hvalues
  · intro values values' hagree
    apply hagree.evaluate_eq
  · intro values name v hname
    apply (Bindings.agreeOn_insert hname v).evaluate_eq

/-- A name that is a part of the only name of an expression has a value, too. -/
theorem evaluate_outcome_part :
  let values := (Bindings.ofList [(['a', 'b'], 1)]).insert ['a'] 5
  (∃ b : Bindings, (∀ name, (b.get? name).isSome ↔ name ∈ [['a', 'b']])
      ∧ evaluate .textual values ['a', 'b']
        = ({ Formula.ofText .textual ['a', 'b'] with
              bindings := b } : Formula).evaluate.mapError .reduction)
    ∧ evaluate .textual values ['a', 'b'] = evaluate .textual (.ofList [(['a', 'b'], 1)]) ['a', 'b']
    ∧ evaluate .textual values ['d', '+', 'c'] = .error (.missingVariable ['c'])
    ∧ evaluate .textual values ['('] = .error (.invalidExpression ['('])
  := by
  intro values
  have hnames : variableNames ['a', 'b'] = [['a', 'b']] := by decide +kernel
  refine ⟨?_, ?_, ?_, ?_⟩
  · have hvalues : ∀ name, ¬values.IsFirstMissing (variableNames ['a', 'b']) name := by
      rintro name ⟨hmem, hnone, -⟩
      rw [hnames, List.mem_singleton] at hmem
      subst hmem
      cases hnone
    obtain ⟨b, hb, -, hevaluate⟩ :=
      (evaluate_outcome .textual ['a', 'b']).2.2.1 (by decide +kernel) values hvalues
    rw [hnames] at hb
    exact ⟨b, hb, hevaluate⟩
  · apply (evaluate_outcome .textual ['a', 'b']).2.2.2.2
    rw [hnames]
    decide
  · apply ((evaluate_outcome .textual ['d', '+', 'c']).2.1 (by decide +kernel) values ['c']).mpr
    exact ⟨by decide +kernel, by decide +kernel, by decide +kernel⟩
  · apply ((evaluate_outcome .textual ['(']).1 values ['(']).mpr
    exact ⟨by decide +kernel, rfl⟩

end Reckoner
