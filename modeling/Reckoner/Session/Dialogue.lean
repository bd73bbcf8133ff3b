import Reckoner.Evaluation

/-!
# Dialogue

A session is a dialogue in which the user enters expressions and, for each, values of its
variables. A `Phase` says what the session waits for: an expression, or the value of a variable.
It has a `prompt`, and `Phase.reply` says what the session writes in reaction to the line that the
user enters, and in which phase it goes on. The exit word is an entry of its own in place of an
expression and ends the dialogue.
-/

namespace Reckoner

/-- What can be chosen about a session. -/
structure SessionOptions where
  /-- The word that ends the session. -/
  exitWord : Text := "exit".toList
  mode : Mode := .textual

/-- What a session waits for. -/
inductive Phase where
  /-- The session waits for an expression or the exit word. -/
  | expression
  /-- The session waits for the value of a variable, while other names are still to come. -/
  | value (f : Formula) (name : Text) (rest : List Text)

/-- A reaction: what the session writes, and the phase in which it goes on unless it is over. -/
structure Reply where
  text : Text
  next : Option Phase

/-- The text that tells the result of an evaluation. -/
def resultText : Except ReductionError Number → Text
  | .ok v => "Result: ".toList ++ v.display ++ ['\n', '\n']
  | .error e => "Error: ".toList ++ e.message ++ ['\n', '\n']

/-- The reaction to a formula that lacks the values of some names: the session waits for the first
of them, and tells the result if there is none. -/
def ask (f : Formula) : List Text → Reply
  | name :: rest => ⟨[], some (.value f name rest)⟩
  | [] => ⟨resultText f.evaluate, some .expression⟩

namespace Phase

/-- What the session writes before it reads a line. -/
def prompt (o : SessionOptions) : Phase → Text
  | expression => "Enter an expression (or '".toList ++ o.exitWord ++ "' to quit): ".toList
  | value _ name _ => "Enter a value for ".toList ++ name ++ ": ".toList

/-- The reaction to an entry, which is a line without the blank characters around it. -/
def replyToEntry (o : SessionOptions) (entry : Text) : Phase → Reply
  | expression =>
    if entry.asciiLower = o.exitWord.asciiLower then ⟨[], none⟩
    else if entry = [] then ⟨[], some expression⟩
    else if isValid entry then ask (.ofText o.mode entry) (variableNames entry)
    else ⟨"Error: the expression is malformed!\n".toList, some expression⟩
  | value f name rest =>
    match Number.ofText? entry with
    | some v => ask (f.assign name v) rest
    | none => ⟨"Error: '".toList ++ entry ++ "' is not a number\n\n".toList, some expression⟩

/-- The reaction to a line. -/
def reply (o : SessionOptions) (p : Phase) (line : Text) : Reply :=
  p.replyToEntry o line.trim

end Phase

end Reckoner
