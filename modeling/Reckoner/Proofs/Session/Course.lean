import Mathlib.Tactic.Common
import Reckoner.Session.Device

/-!
# Sessions line by line

`Phase.run` is what a session does with some lines and how it goes on after them. Of the lines that
follow it depends on these only through the phase that it has reached, and a session that has come
to its end does not depend on them at all (`courseFrom_append_of_wait`,
`courseFrom_append_of_stop`). On a device that does not fail the outcome of a session consists of
the texts of its events one after the other, and can be told a line at a time: `Phase.outcome_cons`
says what a line contributes to it.
-/

namespace Reckoner

variable {o : SessionOptions} {p q : Phase}

/-! ### Lines -/

/-- Nothing is left of a line behind an input that is empty or ends with a line feed. -/
def EndsLine (input : List UInt8) : Prop :=
  ∀ b ∈ input.getLast?, b = lineFeed

instance : DecidablePred EndsLine := fun input =>
  inferInstanceAs (Decidable (∀ b ∈ input.getLast?, b = lineFeed))

/-- Whether an input ends at the end of a line does not depend on its first byte. -/
theorem EndsLine.of_cons {b : UInt8} {input : List UInt8} (h : EndsLine (b :: input)) :
  EndsLine input
  := by
  intro last hlast
  apply h last
  rw [List.getLast?_cons, Option.mem_def.mp hlast]
  rfl

/-- An input that is not empty has a line. -/
theorem inputLines_ne_nil {input : List UInt8} (h : input ≠ []) :
  inputLines input ≠ []
  := by
  intro hlines
  apply h
  rw [← flatten_inputLines input, hlines]
  rfl

/-- The lines of an input that is continued at the end of a line. -/
theorem inputLines_append {input : List UInt8} (h : EndsLine input) (more : List UInt8) :
  inputLines (input ++ more) = inputLines input ++ inputLines more
  := by
  induction input with
  | nil => rfl
  | cons b rest ih =>
    rw [List.cons_append, inputLines, inputLines, ih h.of_cons]
    by_cases hb : b = lineFeed
    · rw [if_pos hb, if_pos hb, List.cons_append]
    · have hrest : rest ≠ [] := by
        rintro rfl
        apply hb (h b rfl)
      obtain ⟨line, lines, hlines⟩ := List.exists_cons_of_ne_nil (inputLines_ne_nil hrest)
      rw [if_neg hb, if_neg hb, hlines]
      rfl

/-- The entry on a line, if the line is the encoding of a text. -/
def enteredText? (line : List UInt8) : Option Text :=
  (decodeLine? line).map Text.trim

theorem enteredText?_of_decodeLine? {line : List UInt8} {text : Text}
    (h : decodeLine? line = some text) :
  enteredText? line = some text.trim
  := by
  rw [enteredText?, h, Option.map_some]

/-! ### Turns -/

/-- The turn that a reply makes. -/
def Reply.turn (r : Reply) : Turn :=
  match r.next with
  | some next => ⟨[.write r.text], .wait next⟩
  | none => ⟨.write r.text :: farewell, .stop .farewell⟩

/-- On a line that is the encoding of a text a session replies to the entry. -/
theorem Phase.turn_of_enteredText? {line : List UInt8} {x : Text} (h : enteredText? line = some x) :
  p.turn o line = (p.replyToEntry o x).turn
  := by
  obtain ⟨text, htext, rfl⟩ := Option.map_eq_some_iff.mp h
  rw [turn, htext]
  rfl

/-- A line that is not the encoding of a text ends a session without a word. -/
theorem Phase.turn_of_undecodable {line : List UInt8} (h : decodeLine? line = none) :
  p.turn o line = ⟨[], .stop .undecodable⟩
  := by
  rw [turn, h]

/-- What a session may do with a line: fail to read it, say farewell, or write a text and wait. -/
theorem Phase.turn_cases (o : SessionOptions) (p : Phase) (line : List UInt8) :
  (decodeLine? line = none ∧ p.turn o line = ⟨[], .stop .undecodable⟩)
    ∨ (∃ text, p.turn o line = ⟨.write text :: farewell, .stop .farewell⟩)
    ∨ ∃ text q, p.turn o line = ⟨[.write text], .wait q⟩
  := by
  cases hdecode : decodeLine? line with
  | none => exact .inl ⟨rfl, turn_of_undecodable hdecode⟩
  | some text =>
    right
    rw [turn_of_enteredText? (enteredText?_of_decodeLine? hdecode), Reply.turn]
    cases (p.replyToEntry o text.trim).next with
    | none => exact .inl ⟨_, rfl⟩
    | some q => exact .inr ⟨_, q, rfl⟩

/-- The turn that starts with some events. -/
def Turn.after (events : List Event) (t : Turn) : Turn :=
  ⟨events ++ t.events, t.continuation⟩

/-- The turn with what follows it, unless the session is at its end. -/
def Turn.andThen (t : Turn) (follow : Phase → Turn) : Turn :=
  match t.continuation with
  | .wait p => (follow p).after t.events
  | .stop _ => t

/-- What a session does with some lines from a phase on, its prompts included. -/
def Phase.run (o : SessionOptions) (p : Phase) : List (List UInt8) → Turn
  | [] => ⟨[], .wait p⟩
  | line :: rest => ((p.turn o line).after (p.promptEvents o)).andThen fun next => next.run o rest

namespace Turn

variable {t : Turn} {follow : Phase → Turn}

theorem after_append (events events' : List Event) (t : Turn) :
  t.after (events ++ events') = (t.after events').after events
  := by
  rw [after, after, after, List.append_assoc]

/-- What follows a turn that waits starts from the phase that the turn has reached. -/
theorem andThen_of_wait (h : t.continuation = .wait p) :
  t.andThen follow = (follow p).after t.events
  := by
  rw [andThen, h]

/-- Nothing follows a turn that ends the session. -/
theorem andThen_of_stop {e : Ending} (h : t.continuation = .stop e) :
  t.andThen follow = t
  := by
  rw [andThen, h]

end Turn

namespace Phase

/-- A session that waits after a line meets the next line in the phase that it has reached. -/
theorem run_cons_of_wait {line : List UInt8} (h : (p.turn o line).continuation = .wait q)
    (rest : List (List UInt8)) :
  p.run o (line :: rest) = (q.run o rest).after (p.promptEvents o ++ (p.turn o line).events)
  := Turn.andThen_of_wait h

/-- A session that ends at a line does nothing with the lines behind it. -/
theorem run_cons_of_stop {line : List UInt8} {e : Ending}
    (h : (p.turn o line).continuation = .stop e) (rest : List (List UInt8)) :
  p.run o (line :: rest) = (p.turn o line).after (p.promptEvents o)
  := Turn.andThen_of_stop h

end Phase

/-- What happens in front of a turn does not change how it is followed up. -/
theorem Turn.andThen_after (events : List Event) (t : Turn) (follow : Phase → Turn) :
  (t.after events).andThen follow = (t.andThen follow).after events
  := by
  cases h : t.continuation with
  | wait p =>
    have hafter : (t.after events).continuation = .wait p := h
    rw [andThen_of_wait h, andThen_of_wait hafter]
    apply after_append
  | stop e =>
    have hafter : (t.after events).continuation = .stop e := h
    rw [andThen_of_stop h, andThen_of_stop hafter]

/-- What a session does with the second of two parts of its input is decided by the phase that it
has reached after the first. -/
theorem Phase.run_append (o : SessionOptions) (p : Phase) (lines more : List (List UInt8)) :
  p.run o (lines ++ more) = (p.run o lines).andThen fun q => q.run o more
  := by
  induction lines generalizing p with
  | nil => rfl
  | cons line rest ih =>
    cases h : (p.turn o line).continuation with
    | wait next =>
      rw [List.cons_append, run_cons_of_wait h, run_cons_of_wait h, ih, Turn.andThen_after]
    | stop e =>
      have hafter : ((p.turn o line).after (p.promptEvents o)).continuation = .stop e := h
      rw [List.cons_append, run_cons_of_stop h, run_cons_of_stop h, Turn.andThen_of_stop hafter]

/-- A session that waits after some lines has waited after each of them. -/
theorem Phase.exists_wait_of_append {lines more : List (List UInt8)}
    (h : (p.run o (lines ++ more)).continuation = .wait q) :
  ∃ p', (p.run o lines).continuation = .wait p'
  := by
  rw [run_append] at h
  cases hlines : (p.run o lines).continuation with
  | wait p' => exact ⟨p', rfl⟩
  | stop e =>
    rw [Turn.andThen_of_stop hlines, hlines] at h
    cases h

/-! ### Courses -/

theorem Course.after_append (events events' : List Event) (c : Course) :
  after (events ++ events') c = after events (after events' c)
  := by
  rw [after, after, after, List.append_assoc]

/-- The course from a line at which the session waits is the prompt, the turn and the course from
the next line. -/
theorem courseFrom_cons_of_wait {line : List UInt8} (h : (p.turn o line).continuation = .wait q)
    (rest : List (List UInt8)) :
  courseFrom o p (line :: rest)
    = .after (p.promptEvents o ++ (p.turn o line).events) (courseFrom o q rest)
  := by
  rw [courseFrom, h]

/-- The course from a line at which the session ends is the prompt and the turn. -/
theorem courseFrom_cons_of_stop {line : List UInt8} {e : Ending}
    (h : (p.turn o line).continuation = .stop e) (rest : List (List UInt8)) :
  courseFrom o p (line :: rest) = ⟨p.promptEvents o ++ (p.turn o line).events, e⟩
  := by
  rw [courseFrom, h]
  change Course.mk (_ ++ []) e = _
  rw [List.append_nil]

/-- A session starts with a prompt, from whatever phase on. -/
theorem exists_courseFrom_eq (o : SessionOptions) (p : Phase) (lines : List (List UInt8)) :
  ∃ c, courseFrom o p lines = .after (p.promptEvents o) c
  := by
  cases lines with
  | nil => exact ⟨⟨inputEnd, .farewell⟩, rfl⟩
  | cons line rest =>
    rw [courseFrom, Course.after_append]
    exact ⟨_, rfl⟩

/-- A session that waits goes on from the phase that it has reached. -/
theorem courseFrom_append_of_wait {lines : List (List UInt8)}
    (h : (p.run o lines).continuation = .wait q) (more : List (List UInt8)) :
  courseFrom o p (lines ++ more) = .after (p.run o lines).events (courseFrom o q more)
  := by
  induction lines generalizing p with
  | nil =>
    cases h
    rfl
  | cons line rest ih =>
    cases hturn : (p.turn o line).continuation with
    | wait next =>
      rw [Phase.run_cons_of_wait hturn] at h
      rw [List.cons_append, courseFrom_cons_of_wait hturn, ih h, ← Course.after_append,
        Phase.run_cons_of_wait hturn, Turn.after]
    | stop e =>
      rw [Phase.run_cons_of_stop hturn, Turn.after, hturn] at h
      cases h

/-- A session that has come to its end leaves the lines behind it unread. -/
theorem courseFrom_append_of_stop {lines : List (List UInt8)} {e : Ending}
    (h : (p.run o lines).continuation = .stop e) (more : List (List UInt8)) :
  courseFrom o p (lines ++ more) = ⟨(p.run o lines).events, e⟩
  := by
  induction lines generalizing p with
  | nil => cases h
  | cons line rest ih =>
    cases hturn : (p.turn o line).continuation with
    | wait next =>
      rw [Phase.run_cons_of_wait hturn] at h
      rw [List.cons_append, courseFrom_cons_of_wait hturn, ih h, Phase.run_cons_of_wait hturn]
      rfl
    | stop e' =>
      rw [Phase.run_cons_of_stop hturn, Turn.after, hturn] at h
      cases h
      rw [List.cons_append, courseFrom_cons_of_stop hturn, Phase.run_cons_of_stop hturn]
      rfl

/-! ### Outcomes on a device that does not fail -/

/-- The text that some events write. -/
def writtenText (events : List Event) : Text :=
  events.flatMap Device.written

@[simp]
theorem writtenText_nil :
  writtenText [] = []
  := rfl

@[simp]
theorem writtenText_write (text : Text) (rest : List Event) :
  writtenText (.write text :: rest) = text ++ writtenText rest
  := rfl

@[simp]
theorem writtenText_flush (occasion : Occasion) (rest : List Event) :
  writtenText (.flush occasion :: rest) = writtenText rest
  := rfl

@[simp]
theorem writtenText_append (events events' : List Event) :
  writtenText (events ++ events') = writtenText events ++ writtenText events'
  := List.flatMap_append

/-- The outcome that starts with a text. -/
def Outcome.after (text : Text) (outcome : Outcome) : Outcome :=
  ⟨text ++ outcome.transcript, outcome.failure⟩

theorem Outcome.after_append (text text' : Text) (outcome : Outcome) :
  after (text ++ text') outcome = after text (after text' outcome)
  := by
  rw [after, after, after, List.append_assoc]

namespace Device

variable {d next : Device} {e : Event}

/-- An event that the device bears is played, and then the others on what is left of the device. -/
theorem play_cons_of_ok (h : d.bear e = .ok next) (rest : List Event) :
  d.play (e :: rest) = (next.play rest).after (written e)
  := by
  rw [play, h]
  rfl

/-- Nothing is written from the first event on that the device does not bear. -/
theorem play_cons_of_error {failure : Failure} (h : d.bear e = .error failure)
    (rest : List Event) :
  d.play (e :: rest) = ⟨[], some failure⟩
  := by
  rw [play, h]

/-- A device that does not fail plays all events. -/
theorem play_unlimited (events : List Event) :
  ({} : Device).play events = ⟨writtenText events, none⟩
  := by
  induction events with
  | nil => rfl
  | cons e rest ih =>
    have hbear : ({} : Device).bear e = .ok {} := by
      cases e with
      | write text => rfl
      | flush occasion => rfl
    rw [play_cons_of_ok hbear, ih]
    rfl

end Device

/-- On a device that does not fail the transcript of a course is the text of all its events. -/
theorem Course.outcome_unlimited (c : Course) :
  c.outcome {} = ⟨writtenText c.events, c.ending.failure⟩
  := by
  rw [outcome, Device.play_unlimited]
  rfl

/-- What a course starts with is at the start of its transcript. -/
theorem Course.outcome_after (events : List Event) (c : Course) :
  (after events c).outcome {} = (c.outcome {}).after (writtenText events)
  := by
  rw [outcome_unlimited, outcome_unlimited, after, writtenText_append, Outcome.after]

/-- The outcome of a session from a phase on, on a device that does not fail. -/
def Phase.outcome (o : SessionOptions) (p : Phase) (lines : List (List UInt8)) : Outcome :=
  (courseFrom o p lines).outcome {}

/-- The outcome of a session after a reply. -/
def Reply.outcome (o : SessionOptions) (r : Reply) (lines : List (List UInt8)) : Outcome :=
  match r.next with
  | some next => (next.outcome o lines).after r.text
  | none => ⟨r.text ++ "Goodbye.\n".toList, none⟩

/-- The transcript of a session is the banner and then what its lines contribute. -/
theorem runSession_eq (o : SessionOptions) (input : List UInt8) :
  runSession o {} input = (Phase.expression.outcome o (inputLines input)).after banner
  := by
  rw [runSession, sessionCourse, Course.outcome_after]
  rfl

/-- At the end of the input a session writes its prompt and says farewell. -/
theorem Phase.outcome_nil (o : SessionOptions) (p : Phase) :
  p.outcome o [] = ⟨p.prompt o ++ "\nGoodbye.\n".toList, none⟩
  := by
  rw [outcome, courseFrom, Course.outcome_unlimited]
  rfl

/-- A session writes the prompt, reads a line and replies to the entry on it. -/
theorem Phase.outcome_cons {line : List UInt8} {x : Text} (h : enteredText? line = some x)
    (rest : List (List UInt8)) :
  p.outcome o (line :: rest) = ((p.replyToEntry o x).outcome o rest).after (p.prompt o)
  := by
  have hturn := turn_of_enteredText? (p := p) (o := o) h
  rw [outcome, Reply.outcome]
  cases hnext : (p.replyToEntry o x).next with
  | some next =>
    have hwait : (p.turn o line).continuation = .wait next := by
      rw [hturn, Reply.turn, hnext]
    rw [courseFrom_cons_of_wait hwait, Course.outcome_after, hturn, Reply.turn, hnext]
    change Outcome.after (p.prompt o ++ (_ ++ [])) _ = _
    rw [List.append_nil, Outcome.after_append]
    rfl
  | none =>
    have hstop : (p.turn o line).continuation = .stop .farewell := by
      rw [hturn, Reply.turn, hnext]
    rw [courseFrom_cons_of_stop hstop, Course.outcome_unlimited, hturn, Reply.turn, hnext]
    rfl

/-- Lines after which a session waits contribute their texts, and the lines behind them what they
contribute from the phase that is reached. -/
theorem Phase.outcome_append_of_wait {lines : List (List UInt8)}
    (h : (p.run o lines).continuation = .wait q) (more : List (List UInt8)) :
  p.outcome o (lines ++ more) = (q.outcome o more).after (writtenText (p.run o lines).events)
  := by
  rw [outcome, courseFrom_append_of_wait h, Course.outcome_after]
  rfl

/-- Lines at which a session ends decide the outcome, whatever stands behind them. -/
theorem Phase.outcome_append_of_stop {lines : List (List UInt8)} {e : Ending}
    (h : (p.run o lines).continuation = .stop e) (more : List (List UInt8)) :
  p.outcome o (lines ++ more) = ⟨writtenText (p.run o lines).events, e.failure⟩
  := by
  rw [outcome, courseFrom_append_of_stop h, Course.outcome_unlimited]

end Reckoner
