import Reckoner.Proofs.Session.Course

/-!
# The prompts of a session

A session flushes its output after each prompt, and once more when it has said farewell. It writes
one prompt before each line that it reads. What comes after the last prompt is told by
`exists_last_prompt`: the farewell, unless the line that the session then reads is not the encoding
of a text.
-/

namespace Reckoner

variable {o : SessionOptions} {p q : Phase}

/-- The occasion of an event, if it is a flush. -/
def Event.occasion? : Event → Option Occasion
  | .flush occasion => some occasion
  | .write _ => none

/-- The occasions of the flushes among some events. -/
def flushesOf (events : List Event) : List Occasion :=
  events.filterMap Event.occasion?

@[simp]
theorem flushesOf_nil :
  flushesOf [] = []
  := rfl

@[simp]
theorem flushesOf_write (text : Text) (rest : List Event) :
  flushesOf (.write text :: rest) = flushesOf rest
  := rfl

@[simp]
theorem flushesOf_flush (occasion : Occasion) (rest : List Event) :
  flushesOf (.flush occasion :: rest) = occasion :: flushesOf rest
  := rfl

@[simp]
theorem flushesOf_append (events events' : List Event) :
  flushesOf (events ++ events') = flushesOf events ++ flushesOf events'
  := List.filterMap_append

/-- A turn after which the session waits does not flush the output. -/
theorem Phase.flushesOf_turn {line : List UInt8} (h : (p.turn o line).continuation = .wait q) :
  flushesOf (p.turn o line).events = []
  := by
  rcases turn_cases o p line with ⟨-, hturn⟩ | ⟨text, hturn⟩ | ⟨text, q', hturn⟩
  · rw [hturn] at h
    cases h
  · rw [hturn] at h
    cases h
  · rw [hturn]
    rfl

/-- A session that waits has flushed the output once for each line that it has read. -/
theorem Phase.flushesOf_run {lines : List (List UInt8)}
    (h : (p.run o lines).continuation = .wait q) :
  flushesOf (p.run o lines).events = List.replicate lines.length .prompt
  := by
  induction lines generalizing p with
  | nil => rfl
  | cons line rest ih =>
    cases hturn : (p.turn o line).continuation with
    | wait next =>
      rw [run_cons_of_wait hturn] at h ⊢
      rw [Turn.after, flushesOf_append, flushesOf_append, flushesOf_turn hturn, ih h]
      rfl
    | stop e =>
      rw [run_cons_of_stop hturn, Turn.after, hturn] at h
      cases h

/-- After some lines a session shows its last prompt. Then it says farewell, or it reads a line that
is not the encoding of a text. -/
theorem exists_last_prompt (o : SessionOptions) (p : Phase) (lines : List (List UInt8)) :
  ∃ before after q, lines = before ++ after ∧ (p.run o before).continuation = .wait q
    ∧ ((∃ text, courseFrom o q after
          = ⟨q.promptEvents o ++ .write text :: farewell, .farewell⟩)
      ∨ (∃ line rest, after = line :: rest ∧ decodeLine? line = none)
        ∧ courseFrom o q after = ⟨q.promptEvents o, .undecodable⟩)
  := by
  -- A line that ends the session comes behind the last prompt; behind any other line there is one.
  induction lines generalizing p with
  | nil => exact ⟨[], [], p, rfl, rfl, .inl ⟨['\n'], rfl⟩⟩
  | cons line rest ih =>
    rcases Phase.turn_cases o p line with ⟨hline, hturn⟩ | ⟨text, hturn⟩ | ⟨text, next, hturn⟩
    · use [], line :: rest, p, rfl, rfl
      right
      use ⟨line, rest, rfl, hline⟩
      rw [courseFrom_cons_of_stop (congrArg Turn.continuation hturn), hturn, List.append_nil]
    · use [], line :: rest, p, rfl, rfl
      left
      use text
      rw [courseFrom_cons_of_stop (congrArg Turn.continuation hturn), hturn]
    · obtain ⟨before, after, q, rfl, hwait, hcourse⟩ := ih next
      refine ⟨line :: before, after, q, rfl, ?_, hcourse⟩
      rw [Phase.run_cons_of_wait (congrArg Turn.continuation hturn)]
      apply hwait

/-- The flushes at the end of a session. -/
def Ending.flushes : Ending → List Occasion
  | farewell => [.farewell]
  | undecodable => []

/-- No prompt is flushed at the end of a session. -/
theorem Ending.count_prompt_flushes (e : Ending) :
  e.flushes.count .prompt = 0
  := by
  cases e with
  | farewell => rfl
  | undecodable => rfl

/-- A session flushes the output for each of the lines that it has read when it shows its last
prompt, for this prompt, and for the farewell if there is one. -/
theorem exists_flushesOf_courseFrom_eq (o : SessionOptions) (p : Phase)
    (lines : List (List UInt8)) :
  ∃ before q, before <+: lines ∧ (p.run o before).continuation = .wait q
    ∧ flushesOf (courseFrom o p lines).events
      = List.replicate (before.length + 1) .prompt ++ (courseFrom o p lines).ending.flushes
  := by
  obtain ⟨before, after, q, rfl, hwait, hcourse⟩ := exists_last_prompt o p lines
  use before, q, List.prefix_append before after, hwait
  rw [courseFrom_append_of_wait hwait, Course.after, flushesOf_append, Phase.flushesOf_run hwait,
    List.replicate_succ', List.append_assoc]
  rcases hcourse with ⟨text, hcourse⟩ | ⟨-, hcourse⟩
  · rw [hcourse]
    rfl
  · rw [hcourse]
    rfl

end Reckoner
