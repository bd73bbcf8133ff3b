import Reckoner.CommandLine.Program

/-!
# The executable

`main` carries out the command that the arguments describe. In a session each line is read when
its prompt has been written, so that a user can answer it.
-/

namespace Reckoner

/-- Performs an event on the standard output. -/
def Event.perform : Event → IO Unit
  | .write text => do (← IO.getStdout).write (String.ofList text).toUTF8
  | .flush _ => do (← IO.getStdout).flush

/-- Reads bytes up to and including the next line feed or up to the end of the input. -/
partial def readLine (input : IO.FS.Stream) (line : List UInt8) : IO (List UInt8) := do
  let bytes ← input.read 1
  match bytes.toList with
  | [] => return line.reverse
  | b :: _ => if b == lineFeed then return (b :: line).reverse else readLine input (b :: line)

/-- Holds a session from a phase on. -/
partial def converse (o : SessionOptions) (p : Phase) : IO Ending := do
  (p.promptEvents o).forM Event.perform
  let line ← readLine (← IO.getStdin) []
  if line.isEmpty then
    inputEnd.forM Event.perform
    return .farewell
  else
    let t := p.turn o line
    t.events.forM Event.perform
    match t.continuation with
    | .wait next => converse o next
    | .stop e => return e

/-- Writes a report and gives its exit status. -/
def Report.perform (r : Report) : IO UInt32 := do
  (← IO.getStdout).write (String.ofList r.output).toUTF8
  (← IO.getStderr).write (String.ofList r.errors).toUTF8
  return UInt32.ofNat r.status

end Reckoner

open Reckoner in
def main (args : List String) : IO UInt32 := do
  match Command.ofArguments? (args.map String.toList) with
  | .error interruption => (interruption.report {}).perform
  | .ok (.evaluate expression assignments mode) =>
    (reportEvaluation expression assignments mode).perform
  | .ok (.session o) =>
    (Event.write banner).perform
    let ending ← converse o .expression
    match ending.failure with
    | none => return 0
    | some f => (Report.mk 1 [] f.report).perform
