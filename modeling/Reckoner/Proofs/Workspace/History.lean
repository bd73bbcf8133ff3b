import Mathlib.Logic.Relation
import Reckoner.Proofs.Evaluation.Entries
import Reckoner.Workspace

/-!
# The history of a formula

The steps that are performed in a workspace give each formula in it a history: the expression and
the mode with which it was made, and the assignments since then. The history of a copy is the one
of the original at the time of the copy, and from then on the two have nothing to do with each
other. After any steps the formulas under all labels are those that their histories describe
(`run_history`): only the last assignment of a name counts, and it does not matter in which order
different names were given their values.
-/

namespace Reckoner

/-! ### Histories -/

/-- The label whose formula a step makes or changes, if there is one. -/
def Step.target? : Step → Option Text
  | create label _ _ => some label
  | assign label _ _ => some label
  | copy _ target => some target
  | value _ _ | formula _ | evaluate _ | compare _ _ => none

/-- How a formula was made and which values were assigned since, in this order. -/
structure History where
  expression : Text
  mode : Mode
  assignments : List (Text × Number)

/-- The history with one more assignment. -/
def History.assign (h : History) (name : Text) (value : Number) : History :=
  { h with assignments := h.assignments ++ [(name, value)] }

/-- The history of the formula under a label after some steps, of which the last one comes first. -/
def history? (label : Text) : List Step → Option History
  | [] => none
  | .create target expression mode :: past =>
    if target = label then some ⟨expression, mode, []⟩ else history? label past
  | .assign target name value :: past =>
    if target = label then (history? label past).map fun h => h.assign name value
    else history? label past
  | .copy source target :: past =>
    if target = label then (history? source past).or (history? label past) else history? label past
  | .value _ _ :: past | .formula _ :: past | .evaluate _ :: past | .compare _ _ :: past =>
    history? label past

/-- A step that neither makes nor changes the formula under a label keeps its history. -/
theorem history?_cons_of_ne {step : Step} {label : Text} (past : List Step)
    (h : step.target? ≠ some label) :
  history? label (step :: past) = history? label past
  := by
  cases step with
  | create target expression mode =>
    rw [history?, if_neg]
    intro heq
    apply h (congrArg some heq)
  | assign target name value =>
    rw [history?, if_neg]
    intro heq
    apply h (congrArg some heq)
  | copy source target =>
    rw [history?, if_neg]
    intro heq
    apply h (congrArg some heq)
  | value | formula | evaluate | compare => rfl

/-- A formula has a history if its expression and its mode are those with which it was made, its
names ascend, and each has the last of the values that were assigned to it, or none. -/
structure Formula.HasHistory (f : Formula) (h : History) : Prop where
  expression_eq : f.expression = h.expression.strip
  mode_eq : f.mode = h.mode
  ascending : f.bindings.entries.Pairwise fun a b => a.1 < b.1
  value?_eq : ∀ name, f.value? name = lastValue? h.assignments name

namespace Formula

variable {f g : Formula} {h h' : History}

/-- A formula that has just been made has no assignments in its history. -/
theorem hasHistory_ofText (expression : Text) (mode : Mode) :
  (ofText mode expression).HasHistory ⟨expression, mode, []⟩
  := by
  constructor
  · rfl
  · rfl
  · apply Bindings.ascending
  · intro name
    rfl

/-- An assignment to a formula is one more in its history. -/
theorem HasHistory.assign (hf : f.HasHistory h) (name : Text) (value : Number) :
  (f.assign name value).HasHistory (h.assign name value)
  := by
  constructor
  · apply hf.expression_eq
  · apply hf.mode_eq
  · apply Bindings.ascending
  · intro other
    rw [History.assign, lastValue?_concat, ← hf.value?_eq]
    by_cases hother : name = other
    · rw [if_pos hother, ← hother]
      apply Bindings.get?_insert_self
    · rw [if_neg hother]
      apply Bindings.get?_insert_of_ne _ _ (Ne.symm hother)

/-- The order in which different names are given their values is not kept. -/
theorem HasHistory.bindings_eq (hf : f.HasHistory h) (hg : g.HasHistory h')
    (hexchange : Relation.ReflTransGen Exchange h.assignments h'.assignments) :
  f.bindings = g.bindings
  := by
  apply Bindings.ext_get?
  intro name
  apply Eq.trans (hf.value?_eq name)
  apply Eq.trans _ (hg.value?_eq name).symm
  apply lastValue?_eq_of_exchange hexchange

end Formula

/-! ### Steps -/

namespace Workspace

variable {w : Workspace} {step : Step} {past : List Step} {label : Text}

theorem withFormula_of_some {f : Formula} (h : w.formula? label = some f)
    (action : Formula → Answer × Workspace) :
  w.withFormula label action = action f
  := by
  rw [withFormula, h]

theorem withFormula_of_none (h : w.formula? label = none)
    (action : Formula → Answer × Workspace) :
  w.withFormula label action = (.noFormula, w)
  := by
  rw [withFormula, h]

/-- To ask something of a formula changes nothing. -/
theorem withFormula_ask (w : Workspace) (label : Text) (answer : Formula → Answer) :
  (w.withFormula label fun f => (answer f, w)).2 = w
  := by
  unfold withFormula
  split
  · rfl
  · rfl

/-- A step without a target changes nothing. -/
theorem perform_of_target?_eq_none (w : Workspace) (h : step.target? = none) :
  (w.perform step).2 = w
  := by
  cases step with
  | create | assign | copy => cases h
  | value label name => apply withFormula_ask
  | formula label => apply withFormula_ask
  | evaluate label => apply withFormula_ask
  | compare label other =>
    rw [perform]
    cases hf : w.formula? label with
    | none => rw [withFormula_of_none hf]
    | some f =>
      rw [withFormula_of_some hf]
      apply withFormula_ask

theorem formula?_perform_create (w : Workspace) (label expression : Text) (mode : Mode) :
  (w.perform (.create label expression mode)).2.formula? label = some (.ofText mode expression)
  := if_pos rfl

/-- After an assignment the formula under the label, if there is one, has the value. -/
theorem formula?_perform_assign (w : Workspace) (label name : Text) (value : Number) :
  (w.perform (.assign label name value)).2.formula? label
    = (w.formula? label).map fun f => f.assign name value
  := by
  rw [perform]
  cases hf : w.formula? label with
  | none => rw [withFormula_of_none hf, hf, Option.map_none]
  | some f => rw [withFormula_of_some hf, formula?_put, if_pos rfl, Option.map_some]

/-- After a copy the formula of the source is found under the target, and without one that of the
target stays. -/
theorem formula?_perform_copy (w : Workspace) (label target : Text) :
  (w.perform (.copy label target)).2.formula? target = (w.formula? label).or (w.formula? target)
  := by
  rw [perform]
  cases hf : w.formula? label with
  | none => rw [withFormula_of_none hf, Option.none_or]
  | some f => rw [withFormula_of_some hf, formula?_put, if_pos rfl, Option.some_or]

theorem formula?_put_of_ne {target : Text} (w : Workspace) (f : Formula)
    (h : some target ≠ some label) :
  (w.put target f).formula? label = w.formula? label
  := by
  rw [formula?_put, if_neg]
  rintro rfl
  apply h rfl

/-- A step does not change the formulas under other labels than its target. -/
theorem formula?_perform_of_ne (w : Workspace) (h : step.target? ≠ some label) :
  (w.perform step).2.formula? label = w.formula? label
  := by
  cases step with
  | create target expression mode => apply formula?_put_of_ne w _ h
  | assign target name value =>
    rw [perform]
    cases hf : w.formula? target with
    | none => rw [withFormula_of_none hf]
    | some f =>
      rw [withFormula_of_some hf]
      apply formula?_put_of_ne w _ h
  | copy source target =>
    rw [perform]
    cases hf : w.formula? source with
    | none => rw [withFormula_of_none hf]
    | some f =>
      rw [withFormula_of_some hf]
      apply formula?_put_of_ne w _ h
  | value | formula | evaluate | compare => rw [perform_of_target?_eq_none w rfl]

/-! ### Runs -/

/-- A workspace follows some steps, of which the last one comes first, if the formulas under its
labels have the histories that the steps give them, and there are no other formulas. -/
def Follows (w : Workspace) (past : List Step) : Prop :=
  ∀ label, Option.Rel Formula.HasHistory (w.formula? label) (history? label past)

theorem follows_empty :
  empty.Follows []
  := fun _ => .none

/-- A change of formulas and one of histories that keep formulas with their histories do so for
formulas that may be missing. -/
theorem rel_map {f : Formula → Formula} {g : History → History} {a : Option Formula}
    {b : Option History} (h : Option.Rel Formula.HasHistory a b)
    (hfg : ∀ x y, x.HasHistory y → (f x).HasHistory (g y)) :
  Option.Rel Formula.HasHistory (a.map f) (b.map g)
  := by
  cases h with
  | none => apply Option.Rel.none
  | some h => apply Option.Rel.some (hfg _ _ h)

/-- A formula takes the place of a missing one together with its history. -/
theorem rel_or {a a' : Option Formula} {b b' : Option History}
    (h : Option.Rel Formula.HasHistory a b) (h' : Option.Rel Formula.HasHistory a' b') :
  Option.Rel Formula.HasHistory (a.or a') (b.or b')
  := by
  cases h with
  | none => apply h'
  | some h => apply Option.Rel.some h

/-- A step does to the formula under its target what it adds to the history. -/
theorem Follows.perform (hw : w.Follows past) (step : Step) :
  (w.perform step).2.Follows (step :: past)
  := by
  intro label
  by_cases htarget : step.target? = some label
  · cases step with
    | create target expression mode =>
      obtain rfl := Option.some.inj htarget
      rw [formula?_perform_create, history?, if_pos rfl]
      apply Option.Rel.some (Formula.hasHistory_ofText expression mode)
    | assign target name value =>
      obtain rfl := Option.some.inj htarget
      rw [formula?_perform_assign, history?, if_pos rfl]
      apply rel_map (hw target)
      intro f h hf
      apply hf.assign name value
    | copy source target =>
      obtain rfl := Option.some.inj htarget
      rw [formula?_perform_copy, history?, if_pos rfl]
      apply rel_or (hw source) (hw target)
    | value | formula | evaluate | compare => cases htarget
  · rw [formula?_perform_of_ne w htarget, history?_cons_of_ne past htarget]
    apply hw

/-- What a run does is what its steps do, one after the other. -/
theorem Follows.run (hw : w.Follows past) (steps : List Step) :
  (w.run steps).2.Follows (steps.reverse ++ past)
  := by
  induction steps generalizing w past with
  | nil => apply hw
  | cons step steps ih =>
    rw [List.reverse_cons, List.append_assoc]
    apply ih (hw.perform step)

/-- The workspace that steps make of an empty one follows them. -/
theorem follows_run (steps : List Step) :
  (empty.run steps).2.Follows steps.reverse
  := by
  have hrun := follows_empty.run steps
  rw [List.append_nil] at hrun
  apply hrun

/-- Under a label without a history there is no formula. -/
theorem Follows.formula?_of_none (hw : w.Follows past) (h : history? label past = none) :
  w.formula? label = none
  := by
  have hrel := hw label
  rw [h] at hrel
  cases hf : w.formula? label with
  | none => rfl
  | some f =>
    rw [hf] at hrel
    cases hrel

/-- Under a label with a history there is a formula that has it. -/
theorem Follows.formula?_of_some {h : History} (hw : w.Follows past)
    (hh : history? label past = some h) :
  ∃ f, w.formula? label = some f ∧ f.HasHistory h
  := by
  have hrel := hw label
  rw [hh] at hrel
  cases hf : w.formula? label with
  | none =>
    rw [hf] at hrel
    cases hrel
  | some f =>
    rw [hf] at hrel
    cases hrel with
    | some hf' => exact ⟨f, rfl, hf'⟩

end Workspace

open Workspace in
/-- After any steps the formula under each label is the one that its history describes, and there is
none if the steps made none. A question for the value of a name is answered by the last value that
was assigned to it in this history. A step changes no formula but that of its target, and a step
without a target changes nothing. Formulas of the same expression whose histories differ in the
order of assignments of different names have the same table and the same value in either mode. -/
theorem run_history (steps : List Step) :
  let w := (empty.run steps).2
  (∀ label, history? label steps.reverse = none → w.formula? label = none)
    ∧ (∀ label h, history? label steps.reverse = some h →
        (∃ f, w.formula? label = some f ∧ f.HasHistory h)
          ∧ ∀ name, (w.perform (.value label name)).1 = .value (lastValue? h.assignments name))
    ∧ (∀ step label, step.target? ≠ some label →
        (w.perform step).2.formula? label = w.formula? label)
    ∧ (∀ step, step.target? = none → (w.perform step).2 = w)
    ∧ ∀ steps' label label' h h',
        history? label steps.reverse = some h → history? label' steps'.reverse = some h' →
        h.expression = h'.expression →
        Relation.ReflTransGen Exchange h.assignments h'.assignments →
        ∃ f g, w.formula? label = some f ∧ (empty.run steps').2.formula? label' = some g
          ∧ f.bindings = g.bindings
          ∧ ∀ mode, ({ f with mode := mode } : Formula).evaluate
              = ({ g with mode := mode } : Formula).evaluate
  := by
  intro w
  have hw : w.Follows steps.reverse := follows_run steps
  refine ⟨fun label => hw.formula?_of_none, ?_, fun step label => formula?_perform_of_ne w,
    fun step => perform_of_target?_eq_none w, ?_⟩
  · intro label h hh
    obtain ⟨f, hf, hhistory⟩ := hw.formula?_of_some hh
    use ⟨f, hf, hhistory⟩
    intro name
    rw [Workspace.perform, withFormula_of_some hf, hhistory.value?_eq]
  · intro steps' label label' h h' hh hh' hexpression hexchange
    obtain ⟨f, hf, hhistory⟩ := hw.formula?_of_some hh
    obtain ⟨g, hg, hhistory'⟩ := (follows_run steps').formula?_of_some hh'
    have hbindings : f.bindings = g.bindings := hhistory.bindings_eq hhistory' hexchange
    use f, g, hf, hg, hbindings
    intro mode
    have hexpression' : f.expression = g.expression := by
      rw [hhistory.expression_eq, hhistory'.expression_eq, hexpression]
    change reduce (substitute mode f.bindings f.expression)
      = reduce (substitute mode g.bindings g.expression)
    rw [hbindings, hexpression']

/-- The original of a copy and the copy go different ways, and another label has no formula. The
copy agrees with a formula of its own whose names were given the same values in another order. -/
theorem run_history_copy :
  let x := ['x']
  let y := ['y']
  let z := ['z']
  let w := (Workspace.empty.run
    [.create x ['a', ' ', '+', 'b'] .textual, .assign x ['a'] 1, .copy x y, .assign x ['a'] 2,
      .assign y ['b'] 3]).2
  let w' := (Workspace.empty.run
    [.create z ['a', ' ', '+', 'b'] .token, .assign z ['b'] 3, .assign z ['a'] 1]).2
  (w.perform (.value x ['a'])).1 = .value (some 2)
    ∧ (w.perform (.value y ['a'])).1 = .value (some 1)
    ∧ w.formula? z = none
    ∧ (w.perform (.assign y ['a'] 5)).2.formula? x = w.formula? x
    ∧ (w.perform (.compare x y)).2 = w
    ∧ ∃ f g, w.formula? y = some f ∧ w'.formula? z = some g ∧ f.bindings = g.bindings
  := by
  intro x y z w w'
  let steps : List Step :=
    [.create x ['a', ' ', '+', 'b'] .textual, .assign x ['a'] 1, .copy x y, .assign x ['a'] 2,
      .assign y ['b'] 3]
  obtain ⟨hnone, hsome, hframe, hask, hexchange⟩ := run_history steps
  refine ⟨?_, ?_, ?_, ?_, ?_, ?_⟩
  · apply (hsome x ⟨_, .textual, [(['a'], 1), (['a'], 2)]⟩ rfl).2
  · apply (hsome y ⟨_, .textual, [(['a'], 1), (['b'], 3)]⟩ rfl).2
  · apply hnone z rfl
  · apply hframe
    decide
  · apply hask _ rfl
  · obtain ⟨f, g, hf, hg, hbindings, -⟩ := hexchange
      [.create z ['a', ' ', '+', 'b'] .token, .assign z ['b'] 3, .assign z ['a'] 1] y z
      ⟨_, .textual, [(['a'], 1), (['b'], 3)]⟩ ⟨_, .token, [(['b'], 3), (['a'], 1)]⟩ rfl rfl rfl
      (.single (.swap [] [] (by decide)))
    use f, g

end Reckoner
