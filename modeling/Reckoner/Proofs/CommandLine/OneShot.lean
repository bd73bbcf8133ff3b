import Reckoner.Proofs.CommandLine.Arguments
import Reckoner.Proofs.Evaluation.Entries
import Reckoner.Proofs.Evaluation.Precedence
import Reckoner.Proofs.Number.Display

/-!
# One evaluation

With an expression among its arguments the program does not read its input. What it writes is the
outcome of the evaluation of the expression with the last value that each name is given, and the
outcome can be told from what is written. Two invocations whose values differ only by revisions that
keep the last values of the names of the expression have the same outcome.
-/

namespace Reckoner

variable {args : List Text} {x : Text} {entries : List (Text × Number)} {mode : Mode}

/-- An invocation with an expression is a command to evaluate it. -/
theorem Invocation.runProgram_eq (h : Invocation args (some x) entries mode) (input : List UInt8)
    (w : Wording) :
  runProgram args input w = reportEvaluation x (assignmentsOf entries) mode
  := by
  have hread := h.readArguments_eq (s := {}) (Or.inl rfl) (Or.inl rfl)
  have hcommand : Command.ofArguments? args
      = .ok (.evaluate x (assignmentsOf entries) mode) := by
    rw [Command.ofArguments?, hread]
    cases mode with
    | textual => rfl
    | token => rfl
  rw [runProgram, hcommand]

theorem map_assignmentsOf (entries : List (Text × Number)) :
  ((assignmentsOf entries).map fun a => (a.name, a.value)) = entries
  := by
  rw [assignmentsOf, List.map_map]
  apply List.map_id

/-- The value of an expression is reported on the output, with success. -/
theorem reportEvaluation_of_ok {r : Number} (h : evaluate mode (.ofList entries) x = .ok r) :
  reportEvaluation x (assignmentsOf entries) mode = ⟨0, r.display ++ ['\n'], []⟩
  := by
  simp only [reportEvaluation, map_assignmentsOf, h]

/-- The error of an evaluation is reported on the error output, with a failure. -/
theorem reportEvaluation_of_error {e : EvaluationError}
    (h : evaluate mode (.ofList entries) x = .error e) :
  reportEvaluation x (assignmentsOf entries) mode
    = ⟨1, [], "Error: ".toList ++ e.message ++ ['\n']⟩
  := by
  simp only [reportEvaluation, map_assignmentsOf, h]

/-- A number is reported if and only if it is the value of the expression. -/
theorem reportEvaluation_eq_iff {r : Number} :
  reportEvaluation x (assignmentsOf entries) mode = ⟨0, r.display ++ ['\n'], []⟩
    ↔ evaluate mode (.ofList entries) x = .ok r
  := by
  constructor
  · intro h
    cases hevaluate : evaluate mode (.ofList entries) x with
    | error e =>
      rw [reportEvaluation_of_error hevaluate] at h
      cases h
    | ok v =>
      rw [reportEvaluation_of_ok hevaluate, Report.mk.injEq] at h
      rw [Number.display_injective (List.append_cancel_right h.2.1)]
  · apply reportEvaluation_of_ok

/-- A revision of the assignments that keeps the values of the names of the expression keeps the
report. -/
theorem reportEvaluation_eq_of_revision {entries' : List (Text × Number)}
    (h : Relation.EqvGen (Revision (variableNames x)) entries entries') :
  reportEvaluation x (assignmentsOf entries') mode
    = reportEvaluation x (assignmentsOf entries) mode
  := by
  have hagree : Bindings.AgreeOn (variableNames x) (.ofList entries') (.ofList entries) := by
    intro name hname
    rw [Bindings.get?_ofList_eq, Bindings.get?_ofList_eq, lastValue?_eq_of_revision h hname]
  simp only [reportEvaluation, map_assignmentsOf, hagree.evaluate_eq]

/-- The program, given an expression, writes the value of the expression and a line feed, with exit
status zero, if and only if the expression has this value when each name has the last value that it
is given. It writes the message of the error otherwise, with exit status one. All that it does stays
the same when the values are given in another order that keeps the order for each name, when a value
is left out that a later one replaces, and when values for other names are added or left out. -/
theorem runProgram_evaluate (h : Invocation args (some x) entries mode) (input : List UInt8)
    (w : Wording) :
  (∃ values : Bindings, (∀ name, values.get? name = lastValue? entries name)
      ∧ (∀ r, runProgram args input w = ⟨0, r.display ++ ['\n'], []⟩
          ↔ evaluate mode values x = .ok r)
      ∧ ∀ e, evaluate mode values x = .error e →
          runProgram args input w = ⟨1, [], "Error: ".toList ++ e.message ++ ['\n']⟩)
    ∧ ∀ args' entries' input', Invocation args' (some x) entries' mode →
        Relation.EqvGen (Revision (variableNames x)) entries entries' →
        runProgram args' input' w = runProgram args input w
  := by
  constructor
  · use .ofList entries, Bindings.get?_ofList_eq entries
    rw [h.runProgram_eq]
    constructor
    · intro r
      apply reportEvaluation_eq_iff
    · intro e
      apply reportEvaluation_of_error
  · intro args' entries' input' h' hrevision
    rw [h'.runProgram_eq, h.runProgram_eq]
    apply reportEvaluation_eq_of_revision hrevision

/-- The value of `a` that another one replaces and the value of `c` do not matter. -/
theorem runProgram_evaluate_product :
  let x := "a * b".toList
  let args := ["-s".toList, " a = 1".toList, "-sb=2".toList, "--expression=a * b".toList,
    "--set=a=3".toList, "-s=c=7".toList]
  let args' := ["-sb=2".toList, "-sa=3".toList, "-e".toList, "a * b".toList]
  Invocation args (some x)
      [("a".toList, 1), ("b".toList, 2), ("a".toList, 3), ("c".toList, 7)] .textual
    ∧ Invocation args' (some x) [("b".toList, 2), ("a".toList, 3)] .textual
    ∧ runProgram args [] = ⟨0, "6.0\n".toList, []⟩
    ∧ runProgram args' [] = ⟨0, "6.0\n".toList, []⟩
  := by
  intro x args args'
  have h : Invocation args (some x)
      [("a".toList, 1), ("b".toList, 2), ("a".toList, 3), ("c".toList, 7)] .textual := by
    refine @Invocation.assignment " a ".toList " 1".toList 1 ["-s".toList, " a = 1".toList] _ _ _ _
      (by decide) (by decide +kernel) (by decide +kernel) (.shortApart rfl rfl) ?_
    refine @Invocation.assignment "b".toList "2".toList 2 ["-sb=2".toList] _ _ _ _
      (by decide) (by decide +kernel) (by decide +kernel) (.short rfl (by decide) (by decide)) ?_
    refine @Invocation.expression x ["--expression=a * b".toList] _ _ _
      (@Parameter.IsGivenBy.long _ _ "expression".toList rfl) ?_
    refine @Invocation.assignment "a".toList "3".toList 3 ["--set=a=3".toList] _ _ _ _
      (by decide) (by decide +kernel) (by decide +kernel)
      (@Parameter.IsGivenBy.long _ _ "set".toList rfl) ?_
    refine @Invocation.assignment "c".toList "7".toList 7 ["-s=c=7".toList] _ _ _ _
      (by decide) (by decide +kernel) (by decide +kernel) (.shortMarked rfl) .nil
  have h' : Invocation args' (some x) [("b".toList, 2), ("a".toList, 3)] .textual := by
    refine @Invocation.assignment "b".toList "2".toList 2 ["-sb=2".toList] _ _ _ _
      (by decide) (by decide +kernel) (by decide +kernel) (.short rfl (by decide) (by decide)) ?_
    refine @Invocation.assignment "a".toList "3".toList 3 ["-sa=3".toList] _ _ _ _
      (by decide) (by decide +kernel) (by decide +kernel) (.short rfl (by decide) (by decide)) ?_
    refine @Invocation.expression x ["-e".toList, x] _ _ _ (.shortApart rfl rfl) .nil
  have hrevision : Relation.EqvGen (Revision (variableNames x))
      [("a".toList, 1), ("b".toList, 2), ("a".toList, 3), ("c".toList, 7)]
      [("b".toList, 2), ("a".toList, 3)] := by
    have hforeign : "c".toList ∉ variableNames x := by decide +kernel
    apply Relation.EqvGen.trans _ [("b".toList, 2), ("a".toList, 3), ("c".toList, 7)]
    · apply Relation.EqvGen.rel
      exact @Revision.replaced _ ("a".toList, 1) ("a".toList, 3) []
        [("b".toList, 2), ("a".toList, 3), ("c".toList, 7)] (by simp) rfl
    · apply Relation.EqvGen.rel
      exact @Revision.foreign _ ("c".toList, 7) [("b".toList, 2), ("a".toList, 3)] [] hforeign
  have hreport : runProgram args [] = ⟨0, "6.0\n".toList, []⟩ := by decide +kernel
  use h, h', hreport
  rw [← hreport]
  apply (runProgram_evaluate h [] {}).2 args' _ [] h' hrevision

end Reckoner
