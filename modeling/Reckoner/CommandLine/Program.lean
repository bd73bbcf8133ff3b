import Reckoner.CommandLine.Arguments
import Reckoner.Session.Device

/-!
# The program

The arguments make a `Command`: to evaluate an expression, or to hold a session if none is given.
`runProgram` carries it out on an input, and its `Report` is the exit status with what is written
to the two outputs. How the help and the refusal of arguments are worded is left open: the program
writes them with any `Wording`.
-/

namespace Reckoner

/-- What the program is asked to do. -/
inductive Command where
  /-- Evaluates an expression with values for variables, of which later ones replace earlier ones.
  -/
  | evaluate (expression : Text) (assignments : List Assignment) (mode : Mode)
  /-- Holds a session. -/
  | session (o : SessionOptions)

/-- The way to substitute values that the settings ask for. -/
def Settings.mode (s : Settings) : Mode :=
  if s.tokenSubstitution then .token else .textual

/-- The command that the settings describe. -/
def Settings.command (s : Settings) : Except Interruption Command :=
  match s.expression with
  | some expression => .ok (.evaluate expression s.assignments s.mode)
  | none =>
    if s.assignments.isEmpty then
      .ok (.session { exitWord := s.exitWord.getD "exit".toList, mode := s.mode })
    else .error (.usage .noExpression)

/-- The command that the arguments describe. -/
def Command.ofArguments? (args : List Text) : Except Interruption Command :=
  (Settings.readArguments {} none args).bind Settings.command

/-- The exit status of a run and what it writes. -/
structure Report where
  status : Nat
  output : Text
  errors : Text
deriving DecidableEq

/-- The text that tells the version of the program. -/
def versionText : Text :=
  "varcalc 0.1.0\n".toList

/-- The wording of what is written about the options, which is empty unless it is given. -/
structure Wording where
  /-- What explains the options. -/
  help : Text := []
  /-- What is said of arguments that are refused. -/
  usage : UsageError → Text := fun _ => []

/-- The report of an interruption while the arguments are read. Only a refusal is an error. -/
def Interruption.report (w : Wording) : Interruption → Report
  | version => ⟨0, versionText, []⟩
  | help => ⟨0, w.help, []⟩
  | usage e => ⟨2, [], w.usage e⟩

/-- The report of the evaluation of an expression. -/
def reportEvaluation (expression : Text) (assignments : List Assignment) (mode : Mode) : Report :=
  let values := Bindings.ofList (assignments.map fun a => (a.name, a.value))
  match evaluate mode values expression with
  | .ok v => ⟨0, v.display ++ ['\n'], []⟩
  | .error e => ⟨1, [], "Error: ".toList ++ e.message ++ ['\n']⟩

/-- The text that tells a user that a session was cut off. -/
def Failure.report (f : Failure) : Text :=
  "interactive session failed: ".toList ++ f.message ++ ['\n']

/-- The report of a session on an input. -/
def reportSession (o : SessionOptions) (input : List UInt8) : Report :=
  let outcome := runSession o {} input
  match outcome.failure with
  | none => ⟨0, outcome.transcript, []⟩
  | some f => ⟨1, outcome.transcript, f.report⟩

/-- The report of the program on its arguments and its input. -/
def runProgram (args : List Text) (input : List UInt8) (w : Wording := {}) : Report :=
  match Command.ofArguments? args with
  | .error interruption => interruption.report w
  | .ok (.evaluate expression assignments mode) => reportEvaluation expression assignments mode
  | .ok (.session o) => reportSession o input

end Reckoner
