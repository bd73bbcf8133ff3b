import Reckoner.Proofs.Evaluation.Precedence
import Reckoner.Proofs.Session.Course

/-!
# Exchanges

In an exchange the user enters an expression and the values of its variables, and the session tells
the result. The session goes about it step by step and between its prompts, but what it tells is
the evaluation of the expression with the values (`outcome_exchange`). It prompts for the names of
the expression in their order and reads one line for each, and an entry that is no number ends the
exchange at once.
-/

namespace Reckoner

variable {o : SessionOptions}

/-! ### Values -/

/-- The number that the entry on a line denotes, if it denotes one. -/
def enteredValue? (line : List UInt8) : Option Number :=
  (enteredText? line).bind Number.ofText?

/-- The text that asks for the value of a name. -/
def valuePrompt (name : Text) : Text :=
  "Enter a value for ".toList ++ name ++ ": ".toList

/-- The text that tells that an entry is no number. -/
def notNumberText (entry : Text) : Text :=
  "Error: '".toList ++ entry ++ "' is not a number\n\n".toList

/-- A session that lacks the value of a name asks for it and takes the number that is entered. -/
theorem outcome_ask_of_value {line : List UInt8} {v : Number} (h : enteredValue? line = some v)
    (f : Formula) (name : Text) (names : List Text) (rest : List (List UInt8)) :
  (ask f (name :: names)).outcome o (line :: rest)
    = ((ask (f.assign name v) names).outcome o rest).after (valuePrompt name)
  := by
  obtain ⟨entry, hentry, hv⟩ := Option.bind_eq_some_iff.mp h
  have hreply : (Phase.value f name names).replyToEntry o entry = ask (f.assign name v) names := by
    rw [Phase.replyToEntry, hv]
  change ((Phase.value f name names).outcome o (line :: rest)).after [] = _
  rw [Phase.outcome_cons hentry, hreply]
  rfl

/-- An entry that is no number brings the session back to where it waits for an expression. -/
theorem outcome_ask_of_not_number {line : List UInt8} {entry : Text}
    (hentry : enteredText? line = some entry) (hnumber : Number.ofText? entry = none) (f : Formula)
    (name : Text) (names : List Text) (rest : List (List UInt8)) :
  (ask f (name :: names)).outcome o (line :: rest)
    = (Phase.expression.outcome o rest).after (valuePrompt name ++ notNumberText entry)
  := by
  have hreply : (Phase.value f name names).replyToEntry o entry
      = ⟨notNumberText entry, some .expression⟩ := by
    rw [Phase.replyToEntry, hnumber]
    rfl
  change ((Phase.value f name names).outcome o (line :: rest)).after [] = _
  rw [Phase.outcome_cons hentry, hreply, Outcome.after_append]
  rfl

/-- A session that gets a number for each of the names asks for all of them and tells the result. -/
theorem outcome_ask {lines : List (List UInt8)} {vs : List Number} {names : List Text}
    (hvalues : lines.map enteredValue? = vs.map some) (hlength : vs.length = names.length)
    (f : Formula) (rest : List (List UInt8)) :
  (ask f names).outcome o (lines ++ rest)
    = (Phase.expression.outcome o rest).after
        (names.flatMap valuePrompt
          ++ resultText ({ f with
              bindings := (names.zip vs).foldl (fun b e => b.insert e.1 e.2)
                f.bindings } : Formula).evaluate)
  := by
  induction names generalizing lines vs f with
  | nil =>
    obtain rfl := List.eq_nil_of_length_eq_zero hlength
    obtain rfl := List.map_eq_nil_iff.mp hvalues
    rfl
  | cons name names ih =>
    obtain ⟨v, vs, rfl⟩ := List.exists_cons_of_length_eq_add_one hlength
    obtain ⟨line, lines, rfl, hv, hvalues⟩ := List.map_eq_cons_iff.mp hvalues
    rw [List.cons_append, outcome_ask_of_value hv, ih hvalues (Nat.succ.inj hlength),
      ← Outcome.after_append, List.flatMap_cons, List.append_assoc]
    rfl

/-- A session that gets numbers for the first of the names and then an entry that is none has asked
for these names and the next one. -/
theorem outcome_ask_until {lines : List (List UInt8)} {vs : List Number} {names : List Text}
    (hvalues : lines.map enteredValue? = vs.map some) (hlength : vs.length < names.length)
    {line : List UInt8} {entry : Text} (hentry : enteredText? line = some entry)
    (hnumber : Number.ofText? entry = none) (f : Formula) (rest : List (List UInt8)) :
  (ask f names).outcome o (lines ++ line :: rest)
    = (Phase.expression.outcome o rest).after
        ((names.take (vs.length + 1)).flatMap valuePrompt ++ notNumberText entry)
  := by
  induction names generalizing lines vs f with
  | nil => cases hlength
  | cons name names ih =>
    cases vs with
    | nil =>
      obtain rfl := List.map_eq_nil_iff.mp hvalues
      rw [List.nil_append, outcome_ask_of_not_number hentry hnumber]
      simp
    | cons v vs =>
      obtain ⟨first, lines, rfl, hv, hvalues⟩ := List.map_eq_cons_iff.mp hvalues
      rw [List.cons_append, outcome_ask_of_value hv, ih hvalues (Nat.lt_of_succ_lt_succ hlength),
        ← Outcome.after_append, List.length_cons, List.take_succ_cons, List.flatMap_cons,
        List.append_assoc]

/-! ### Expressions -/

/-- The text that tells the outcome of an evaluation. -/
def evaluationText : Except EvaluationError Number → Text
  | .ok v => "Result: ".toList ++ v.display ++ "\n\n".toList
  | .error e => "Error: ".toList ++ e.message ++ "\n\n".toList

/-- What a session tells of a reduction is what it would tell of the evaluation. -/
theorem resultText_eq (r : Except ReductionError Number) :
  resultText r = evaluationText (r.mapError .reduction)
  := by
  cases r with
  | ok v => rfl
  | error e => rfl

/-- The reply to an entry that is neither empty nor the exit word. -/
theorem replyToEntry_expression {x : Text} (hne : x ≠ [])
    (hexit : x.asciiLower ≠ o.exitWord.asciiLower) :
  Phase.expression.replyToEntry o x
    = if isValid x then ask (.ofText o.mode x) (variableNames x)
      else ⟨"Error: the expression is malformed!\n".toList, some .expression⟩
  := by
  rw [Phase.replyToEntry, if_neg hexit, if_neg hne]

/-- A session that waits for an expression and reads one which an evaluation rejects tells so and
waits for another one. Otherwise it asks for the values of the names of the expression in their
order and reads a line for each. If these are numbers then it tells the outcome of the evaluation
with these values, and if one is not then it tells so in place of the rest. In any case it waits for
an expression again. -/
theorem outcome_exchange {line : List UInt8} {x : Text} (hline : enteredText? line = some x)
    (hne : x ≠ []) (hexit : x.asciiLower ≠ o.exitWord.asciiLower) (values : Bindings) :
  (evaluate o.mode values x = .error (.invalidExpression x) → ∀ rest,
      Phase.expression.outcome o (line :: rest)
        = (Phase.expression.outcome o rest).after
            (Phase.expression.prompt o ++ "Error: the expression is malformed!\n".toList))
    ∧ (evaluate o.mode values x ≠ .error (.invalidExpression x) → ∀ lines vs,
        lines.map enteredValue? = vs.map some →
        (vs.length = (variableNames x).length → ∀ rest,
          Phase.expression.outcome o (line :: lines ++ rest)
            = (Phase.expression.outcome o rest).after
                (Phase.expression.prompt o ++ (variableNames x).flatMap valuePrompt
                  ++ evaluationText
                      (evaluate o.mode (.ofList ((variableNames x).zip vs)) x)))
        ∧ (vs.length < (variableNames x).length → ∀ wrong entry, enteredText? wrong = some entry →
          Number.ofText? entry = none → ∀ rest,
          Phase.expression.outcome o (line :: lines ++ wrong :: rest)
            = (Phase.expression.outcome o rest).after
                (Phase.expression.prompt o
                  ++ ((variableNames x).take (vs.length + 1)).flatMap valuePrompt
                  ++ notNumberText entry)))
  := by
  have hreply := replyToEntry_expression hne hexit
  have hrejected : evaluate o.mode values x = .error (.invalidExpression x)
      ↔ isValid x = false := by
    rw [evaluate_eq_invalidExpression_iff, and_iff_left rfl]
  constructor
  · intro hinvalid rest
    rw [hrejected] at hinvalid
    rw [Phase.outcome_cons hline, hreply, hinvalid, Outcome.after_append]
    rfl
  · intro hvalid lines vs hvalues
    rw [ne_eq, hrejected, Bool.not_eq_false] at hvalid
    rw [if_pos hvalid] at hreply
    constructor
    · intro hlength rest
      rw [List.cons_append, Phase.outcome_cons hline, hreply, outcome_ask hvalues hlength,
        evaluate_ofList_zip hvalid hlength, ← resultText_eq, ← Outcome.after_append,
        List.append_assoc]
      rfl
    · intro hlength wrong entry hentry hnumber rest
      rw [List.cons_append, Phase.outcome_cons hline, hreply,
        outcome_ask_until hvalues hlength hentry hnumber, ← Outcome.after_append,
        List.append_assoc]

/-- The values of a quotient, an entry that is no number, and a parenthesis that is not closed. -/
theorem outcome_exchange_quotient :
  let line := " b/a\n".toUTF8.data.toList
  let asked := Phase.expression.prompt {} ++ "Enter a value for a: Enter a value for b: ".toList
  Phase.expression.outcome {} [line, "4\n".toUTF8.data.toList, "2\n".toUTF8.data.toList]
      = (Phase.expression.outcome {} []).after (asked ++ "Result: 0.5\n\n".toList)
    ∧ Phase.expression.outcome {} [line, "4\n".toUTF8.data.toList, "two".toUTF8.data.toList]
      = (Phase.expression.outcome {} []).after
          (asked ++ "Error: 'two' is not a number\n\n".toList)
    ∧ Phase.expression.outcome {} ["(".toUTF8.data.toList, line]
      = (Phase.expression.outcome {} [line]).after
          (Phase.expression.prompt {} ++ "Error: the expression is malformed!\n".toList)
  := by
  intro line asked
  have hline : enteredText? line = some "b/a".toList := by decide +kernel
  have hne : "b/a".toList ≠ [] := by decide +kernel
  have hexit : Text.asciiLower "b/a".toList ≠ Text.asciiLower "exit".toList := by decide +kernel
  have hvalid : evaluate .textual .empty "b/a".toList
      ≠ .error (.invalidExpression "b/a".toList) := by decide +kernel
  have hexchange := (outcome_exchange (o := {}) hline hne hexit .empty).2 hvalid
  refine ⟨?_, ?_, ?_⟩
  · have hvalues : ["4\n".toUTF8.data.toList, "2\n".toUTF8.data.toList].map enteredValue?
        = [4, 2].map some := by decide +kernel
    have htext : asked ++ "Result: 0.5\n\n".toList
        = Phase.expression.prompt {} ++ (variableNames "b/a".toList).flatMap valuePrompt
          ++ evaluationText (evaluate .textual (.ofList ((variableNames "b/a".toList).zip [4, 2]))
              "b/a".toList) := by decide +kernel
    rw [htext]
    apply (hexchange _ _ hvalues).1 (by decide +kernel) []
  · have hvalues : ["4\n".toUTF8.data.toList].map enteredValue? = [4].map some := by
      decide +kernel
    have htext : asked ++ "Error: 'two' is not a number\n\n".toList
        = Phase.expression.prompt {}
          ++ ((variableNames "b/a".toList).take 2).flatMap valuePrompt
          ++ notNumberText "two".toList := by decide +kernel
    rw [htext]
    apply (hexchange _ _ hvalues).2 (by decide +kernel) _ _ (by decide +kernel)
      (by decide +kernel) []
  · apply (outcome_exchange (o := {}) (x := ['(']) (by decide +kernel) (by decide +kernel)
      (by decide +kernel) .empty).1
    decide +kernel

end Reckoner
