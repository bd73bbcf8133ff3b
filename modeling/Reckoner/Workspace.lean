import Reckoner.Formula

/-!
# Workspaces

A `Workspace` holds formulas under labels. A `Step` acts on the formula of a label: it makes,
changes or copies one, or asks something of it. `Workspace.run` performs steps in order and lists
their answers. A step on a label that has no formula changes nothing and is answered by
`Answer.noFormula`.
-/

namespace Reckoner

/-- Formulas under labels, at most one under each. -/
structure Workspace where
  formula? : Text → Option Formula

/-- The actions on the formulas of a workspace. -/
inductive Step where
  /-- Puts the formula of an expression under a label, without values. -/
  | create (label expression : Text) (mode : Mode)
  /-- Gives a name a value. -/
  | assign (label name : Text) (value : Number)
  /-- Asks for the value of a name. -/
  | value (label name : Text)
  /-- Asks for the formula. -/
  | formula (label : Text)
  /-- Asks for the value of the formula. -/
  | evaluate (label : Text)
  /-- Puts a copy of the formula under another label. -/
  | copy (label target : Text)
  /-- Asks whether the formulas under two labels agree. -/
  | compare (label other : Text)

/-- The answers to the steps. -/
inductive Answer where
  | expression (text : Text)
  | entries (list : List (Text × Number))
  | value (result : Option Number)
  | formula (f : Formula)
  | outcome (result : Except ReductionError Number)
  | copied
  | agree (result : Bool)
  | noFormula

namespace Workspace

/-- The workspace without formulas. -/
def empty : Workspace :=
  ⟨fun _ => none⟩

/-- The workspace with a formula under a label. -/
def put (w : Workspace) (label : Text) (f : Formula) : Workspace :=
  ⟨fun l => if l = label then some f else w.formula? l⟩

/-- A formula that is put under a label is found there, and the other labels keep theirs. -/
@[simp]
theorem formula?_put (w : Workspace) (label l : Text) (f : Formula) :
  (w.put label f).formula? l = if l = label then some f else w.formula? l
  := rfl

/-- The answer to a step that asks something of a formula or changes it, and the workspace after
the step. -/
def withFormula (w : Workspace) (label : Text) (action : Formula → Answer × Workspace) :
    Answer × Workspace :=
  match w.formula? label with
  | some f => action f
  | none => (.noFormula, w)

/-- The answer to a step and the workspace after it. -/
def perform (w : Workspace) : Step → Answer × Workspace
  | .create label expression mode =>
    let f := Formula.ofText mode expression
    (.expression f.expression, w.put label f)
  | .assign label name value =>
    w.withFormula label fun f =>
      let g := f.assign name value
      (.entries g.bindings.entries, w.put label g)
  | .value label name => w.withFormula label fun f => (.value (f.value? name), w)
  | .formula label => w.withFormula label fun f => (.formula f, w)
  | .evaluate label => w.withFormula label fun f => (.outcome f.evaluate, w)
  | .copy label target => w.withFormula label fun f => (.copied, w.put target f)
  | .compare label other =>
    w.withFormula label fun f => w.withFormula other fun g => (.agree (f.agree g), w)

/-- The answers to some steps and the workspace after them. -/
def run (w : Workspace) : List Step → List Answer × Workspace
  | [] => ([], w)
  | step :: rest =>
    let (answer, next) := w.perform step
    let (answers, final) := next.run rest
    (answer :: answers, final)

end Workspace

end Reckoner
