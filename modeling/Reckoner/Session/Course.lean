import Reckoner.Session.Dialogue
import Reckoner.Session.Input

/-!
# The course of a session

The course of a session on an input is what happens to its output: texts are written, and the
output is flushed after each prompt and at the end. `Phase.turn` lists these events for one line,
and `sessionCourse` for a whole input, together with the way in which the session ends. The end of
the input ends a session as the exit word does, and a line that is not text cuts it off.
-/

namespace Reckoner

/-- The occasions for a flush. -/
inductive Occasion where
  | prompt
  | farewell
deriving DecidableEq

/-- What happens to the output of a session. -/
inductive Event where
  | write (text : Text)
  | flush (occasion : Occasion)
deriving DecidableEq

/-- The ways in which a session ends as far as its input is concerned. -/
inductive Ending where
  /-- The session has said farewell. -/
  | farewell
  /-- A line is not the encoding of a text. -/
  | undecodable
deriving DecidableEq

/-- The events of a session and its ending. -/
structure Course where
  events : List Event
  ending : Ending
deriving DecidableEq

/-- The course that starts with some events. -/
def Course.after (events : List Event) (c : Course) : Course :=
  ⟨events ++ c.events, c.ending⟩

/-- The text with which a session starts. -/
def banner : Text :=
  "Expression calculator\nOperations: + - * / ( )\nVariables are made of letters only\n".toList
    ++ "Example: (2 + a) - (b + 3)\n\n".toList

/-- The events when the dialogue is over. -/
def farewell : List Event :=
  [.write "Goodbye.\n".toList, .flush .farewell]

/-- The events when the input is at its end. -/
def inputEnd : List Event :=
  .write ['\n'] :: farewell

/-- The events before a session reads a line. -/
def Phase.promptEvents (o : SessionOptions) (p : Phase) : List Event :=
  [.write (p.prompt o), .flush .prompt]

/-- How a session goes on: it waits again, or it is at its end. -/
inductive Continuation where
  | wait (p : Phase)
  | stop (e : Ending)

/-- The events that a line brings about, and how the session goes on after them. -/
structure Turn where
  events : List Event
  continuation : Continuation

/-- What a session does with a line. -/
def Phase.turn (o : SessionOptions) (p : Phase) (line : List UInt8) : Turn :=
  match decodeLine? line with
  | none => ⟨[], .stop .undecodable⟩
  | some text =>
    let r := p.reply o text
    match r.next with
    | some next => ⟨[.write r.text], .wait next⟩
    | none => ⟨.write r.text :: farewell, .stop .farewell⟩

/-- The course of a session from a phase on, for the lines that are left. -/
def courseFrom (o : SessionOptions) (p : Phase) : List (List UInt8) → Course
  | [] => ⟨p.promptEvents o ++ inputEnd, .farewell⟩
  | line :: rest =>
    let t := p.turn o line
    .after (p.promptEvents o ++ t.events)
      (match t.continuation with
      | .wait next => courseFrom o next rest
      | .stop e => ⟨[], e⟩)

/-- The course of a session on an input. -/
def sessionCourse (o : SessionOptions) (input : List UInt8) : Course :=
  .after [.write banner] (courseFrom o .expression (inputLines input))

end Reckoner
