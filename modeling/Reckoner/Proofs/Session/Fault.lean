import Reckoner.Proofs.Session.Prompts

/-!
# Sessions that are cut off

A device that fails cuts a session off at the event that it refuses, and what the session has
written up to there is the beginning of what it writes on a device that does not fail. If the device
refuses a flush then the session ends with the prompt, or the farewell, that was to be flushed; if
its room is limited then the session fails exactly if it writes more than there is room for.
-/

namespace Reckoner

variable {o : SessionOptions} {p : Phase} {input : List UInt8}

/-! ### Events on a device that fails -/

namespace Device

theorem bear_write (n : Nat) (text : Text) :
  ({ flushes := some n } : Device).bear (.write text) = .ok { flushes := some n }
  := rfl

/-- A device bears a flush as long as another one may fail later. -/
theorem bear_flush (n : Nat) (occasion : Occasion) :
  ({ flushes := some (n + 1) } : Device).bear (.flush occasion) = .ok { flushes := some n }
  := rfl

theorem bear_withRoom_flush (n : Nat) (occasion : Occasion) :
  (withRoom n).bear (.flush occasion) = .ok (withRoom n)
  := rfl

/-- A device with room for a text bears it and has less room then. -/
theorem bear_withRoom_of_le {text : Text} {n : Nat} (h : text.utf8Length ≤ n) :
  (withRoom n).bear (.write text) = .ok (withRoom (n - text.utf8Length))
  := if_pos h

theorem bear_withRoom_of_lt {text : Text} {n : Nat} (h : n < text.utf8Length) :
  (withRoom n).bear (.write text) = .error .write
  := if_neg (Nat.not_le_of_gt h)

/-- A device does not fail before the flush that it refuses. -/
theorem play_of_length_flushesOf_le {n : Nat} {events : List Event}
    (h : (flushesOf events).length ≤ n) :
  ({ flushes := some n } : Device).play events = ⟨writtenText events, none⟩
  := by
  induction events generalizing n with
  | nil => rfl
  | cons e rest ih =>
    cases e with
    | write text =>
      rw [play_cons_of_ok (bear_write n text), ih h]
      rfl
    | flush occasion =>
      obtain ⟨m, rfl⟩ := Nat.exists_eq_add_of_le' (Nat.le_trans (Nat.le_add_left 1 _) h)
      rw [play_cons_of_ok (bear_flush m occasion), ih (Nat.le_of_succ_le_succ h)]
      rfl

/-- A device that refuses a flush has taken what is written before it. -/
theorem play_append_flush (before : List Event) (occasion : Occasion) (after : List Event) :
  ({ flushes := some (flushesOf before).length } : Device).play (before ++ .flush occasion :: after)
    = ⟨writtenText before, some (.flush occasion)⟩
  := by
  induction before with
  | nil => rfl
  | cons e rest ih =>
    cases e with
    | write text =>
      rw [List.cons_append, flushesOf_write, play_cons_of_ok (bear_write _ text), ih]
      rfl
    | flush occasion' =>
      rw [List.cons_append, flushesOf_flush, List.length_cons,
        play_cons_of_ok (bear_flush _ occasion'), ih]
      rfl

/-- A device with room for all that is written does not fail. -/
theorem play_withRoom_of_le {n : Nat} {events : List Event}
    (h : (writtenText events).utf8Length ≤ n) :
  (withRoom n).play events = ⟨writtenText events, none⟩
  := by
  induction events generalizing n with
  | nil => rfl
  | cons e rest ih =>
    cases e with
    | write text =>
      rw [writtenText_write, Text.utf8Length_append] at h
      rw [play_cons_of_ok (bear_withRoom_of_le (by omega)), ih (by omega)]
      rfl
    | flush occasion =>
      rw [play_cons_of_ok (bear_withRoom_flush n occasion), ih h]
      rfl

/-- A device without room for all that is written refuses to write some of it. -/
theorem failure_play_withRoom_of_lt {n : Nat} {events : List Event}
    (h : n < (writtenText events).utf8Length) :
  ((withRoom n).play events).failure = some .write
  := by
  induction events generalizing n with
  | nil => cases h
  | cons e rest ih =>
    cases e with
    | write text =>
      rw [writtenText_write, Text.utf8Length_append] at h
      by_cases hroom : text.utf8Length ≤ n
      · rw [play_cons_of_ok (bear_withRoom_of_le hroom)]
        apply ih
        omega
      · rw [play_cons_of_error (bear_withRoom_of_lt (Nat.lt_of_not_le hroom))]
    | flush occasion =>
      rw [play_cons_of_ok (bear_withRoom_flush n occasion)]
      apply ih h

end Device

namespace Course

variable {d : Device} {c : Course}

/-- A course that a device plays to its end has the outcome that it has on a device that does not
fail. -/
theorem outcome_of_play_eq (h : d.play c.events = ⟨writtenText c.events, none⟩) :
  c.outcome d = c.outcome {}
  := by
  rw [outcome, h, outcome_unlimited]
  rfl

/-- A failure of the device is the failure of the outcome. -/
theorem outcome_of_play_failure {text : Text} {failure : Failure}
    (h : d.play c.events = ⟨text, some failure⟩) :
  c.outcome d = ⟨text, some failure⟩
  := by
  rw [outcome, h]
  rfl

end Course

/-! ### The events of a session -/

/-- The events of a session up to the prompt of a phase that it has reached after some lines. -/
def promptFront (o : SessionOptions) (lines : List (List UInt8)) (p : Phase) : List Event :=
  .write banner :: (Phase.expression.run o lines).events ++ [.write (p.prompt o)]

/-- What a session has written when it shows the prompt after some lines, if it shows one. -/
def promptOutput? (o : SessionOptions) (lines : List (List UInt8)) : Option Text :=
  match (Phase.expression.run o lines).continuation with
  | .wait p => some (writtenText (promptFront o lines p))
  | .stop _ => none

section

variable {lines : List (List UInt8)} (h : (Phase.expression.run o lines).continuation = .wait p)

include h

/-- A session that waits after some lines has written what is in front of the next prompt. -/
theorem promptOutput?_of_wait :
  promptOutput? o lines = some (writtenText (promptFront o lines p))
  := by
  rw [promptOutput?, h]

/-- A session has flushed its output once for each line in front of the prompt of a phase. -/
theorem flushesOf_promptFront :
  flushesOf (promptFront o lines p) = List.replicate lines.length .prompt
  := by
  rw [promptFront, flushesOf_append, flushesOf_write, Phase.flushesOf_run h]
  apply List.append_nil

/-- A session that shows a prompt flushes the output behind it and goes on from there. -/
theorem sessionCourse_eq {rest : List (List UInt8)} {after : List Event} {ending : Ending}
    (hinput : inputLines input = lines ++ rest)
    (hcourse : courseFrom o p rest = ⟨p.promptEvents o ++ after, ending⟩) :
  sessionCourse o input = ⟨promptFront o lines p ++ .flush .prompt :: after, ending⟩
  := by
  rw [sessionCourse, hinput, courseFrom_append_of_wait h, hcourse, promptFront, List.append_assoc]
  rfl

/-- What a session does up to a prompt is the start of its course. -/
theorem exists_sessionCourse_eq {rest : List (List UInt8)}
    (hinput : inputLines input = lines ++ rest) :
  ∃ after ending, sessionCourse o input
    = ⟨promptFront o lines p ++ .flush .prompt :: after, ending⟩
  := by
  obtain ⟨c, hcourse⟩ := exists_courseFrom_eq o p rest
  exact ⟨c.events, c.ending, sessionCourse_eq h hinput hcourse⟩

end

/-- What a session does after its last prompt. -/
theorem sessionCourse_cases (o : SessionOptions) (input : List UInt8) :
  ∃ lines rest p, inputLines input = lines ++ rest
    ∧ (Phase.expression.run o lines).continuation = .wait p
    ∧ ((∃ text, sessionCourse o input
          = ⟨promptFront o lines p ++ .flush .prompt :: .write text :: farewell, .farewell⟩)
      ∨ (∃ line more, rest = line :: more ∧ decodeLine? line = none)
        ∧ sessionCourse o input = ⟨promptFront o lines p ++ [.flush .prompt], .undecodable⟩)
  := by
  obtain ⟨lines, rest, p, hlines, hwait, hcourse⟩ :=
    exists_last_prompt o .expression (inputLines input)
  use lines, rest, p, hlines, hwait
  rcases hcourse with ⟨text, hcourse⟩ | ⟨hline, hcourse⟩
  · left
    use text
    apply sessionCourse_eq hwait hlines hcourse
  · right
    use hline
    rw [← List.append_nil (p.promptEvents o)] at hcourse
    apply sessionCourse_eq hwait hlines hcourse

/-- A session flushes the output behind its prompts and, if it comes so far, behind the farewell. -/
theorem exists_flushesOf_sessionCourse_eq (o : SessionOptions) (input : List UInt8) :
  ∃ lines p, lines <+: inputLines input
    ∧ (Phase.expression.run o lines).continuation = .wait p
    ∧ flushesOf (sessionCourse o input).events
      = List.replicate (lines.length + 1) .prompt
        ++ if (runSession o {} input).failure = none then [.farewell] else []
  := by
  obtain ⟨lines, p, hlines, hwait, hflushes⟩ :=
    exists_flushesOf_courseFrom_eq o .expression (inputLines input)
  have hending : (sessionCourse o input).ending.flushes
      = if (runSession o {} input).failure = none then [.farewell] else [] := by
    rw [runSession, Course.outcome_unlimited]
    cases (sessionCourse o input).ending with
    | farewell => rfl
    | undecodable => rfl
  use lines, p, hlines, hwait
  rw [← hending]
  apply hflushes

/-- A session that cannot read a line has written the prompt for it and nothing behind that. -/
theorem exists_undecodable (h : (runSession o {} input).failure = some .undecodable) :
  ∃ lines line rest, inputLines input = lines ++ line :: rest ∧ decodeLine? line = none
    ∧ promptOutput? o lines = some (runSession o {} input).transcript
    ∧ flushesOf (sessionCourse o input).events = List.replicate (lines.length + 1) .prompt
  := by
  obtain ⟨lines, rest, p, hlines, hwait, hcourse⟩ := sessionCourse_cases o input
  rw [runSession, Course.outcome_unlimited] at h ⊢
  rcases hcourse with ⟨text, hcourse⟩ | ⟨⟨line, more, rfl, hdecode⟩, hcourse⟩
  · rw [hcourse] at h
    cases h
  · refine ⟨lines, line, more, hlines, hdecode, ?_, ?_⟩
    · rw [promptOutput?_of_wait hwait, hcourse]
      simp
    · rw [hcourse, flushesOf_append, flushesOf_promptFront hwait, List.replicate_succ']
      rfl

/-! ### Flushes that fail -/

/-- A device that would refuse a later flush than there are does not fail. -/
theorem runSession_failingFlush_of_lt {n : Nat}
    (h : (flushesOf (sessionCourse o input).events).length < n) :
  runSession o (.failingFlush n) input = runSession o {} input
  := by
  obtain ⟨m, rfl⟩ := Nat.exists_eq_add_of_lt h
  apply Course.outcome_of_play_eq
  apply Device.play_of_length_flushesOf_le
  omega

/-- Before the flush behind a prompt the session has read one line for each prompt before it. -/
theorem exists_wait_of_getElem? {n : Nat}
    (h : (flushesOf (sessionCourse o input).events)[n]? = some .prompt) :
  n ≤ (inputLines input).length
    ∧ ∃ p, (Phase.expression.run o ((inputLines input).take n)).continuation = .wait p
  := by
  obtain ⟨lines, p, ⟨rest, hlines⟩, hwait, hflushes⟩ := exists_flushesOf_sessionCourse_eq o input
  have hn : n < lines.length + 1 := by
    by_contra hn
    rw [hflushes, List.getElem?_append_right (by rw [List.length_replicate]; omega)] at h
    have hmem := List.mem_of_getElem? h
    split at hmem
    · cases List.mem_singleton.mp hmem
    · cases hmem
  rw [← hlines, List.take_append_of_le_length (Nat.le_of_lt_succ hn), List.length_append]
  use Nat.le_add_right_of_le (Nat.le_of_lt_succ hn)
  rw [← List.take_append_drop n lines] at hwait
  apply Phase.exists_wait_of_append hwait

/-- Only the last event of a session is the flush behind the farewell. -/
theorem exists_farewell_of_getElem? {n : Nat}
    (h : (flushesOf (sessionCourse o input).events)[n]? = some .farewell) :
  ∃ front, sessionCourse o input = ⟨front ++ [.flush .farewell], .farewell⟩
    ∧ (flushesOf front).length = n
  := by
  obtain ⟨lines, rest, p, -, hwait, ⟨text, hcourse⟩ | ⟨-, hcourse⟩⟩ := sessionCourse_cases o input
  · let front := promptFront o lines p
      ++ [.flush .prompt, .write text, .write "Goodbye.\n".toList]
    have hfront : flushesOf front = List.replicate lines.length .prompt ++ [.prompt] := by
      rw [flushesOf_append, flushesOf_promptFront hwait]
      rfl
    have hfarewell : sessionCourse o input = ⟨front ++ [.flush .farewell], .farewell⟩ := by
      rw [hcourse, List.append_assoc]
      rfl
    use front, hfarewell
    -- All flushes of `front` are behind prompts, so that the one in question comes after them.
    rw [hfarewell, flushesOf_append] at h
    obtain ⟨hlt, -⟩ := List.getElem?_eq_some_iff.mp h
    have hle : ¬n < (flushesOf front).length := by
      intro hn
      rw [List.getElem?_append_left hn, hfront] at h
      have hmem := List.mem_of_getElem? h
      simp at hmem
    rw [List.length_append] at hlt
    exact Nat.le_antisymm (Nat.le_of_not_lt hle) (Nat.le_of_lt_succ hlt)
  · have hmem := List.mem_of_getElem? h
    rw [hcourse, flushesOf_append, flushesOf_promptFront hwait] at hmem
    simp at hmem

/-- If the device refuses the flush behind the farewell then all has been written. -/
theorem runSession_failingFlush_farewell {n : Nat}
    (h : (flushesOf (sessionCourse o input).events)[n]? = some .farewell) :
  runSession o (.failingFlush (n + 1)) input
    = ⟨(runSession o {} input).transcript, some (.flush .farewell)⟩
  := by
  obtain ⟨front, hcourse, rfl⟩ := exists_farewell_of_getElem? h
  have hplay := Device.play_append_flush front .farewell []
  rw [runSession, runSession, Course.outcome_unlimited, hcourse, writtenText_append,
    writtenText_flush, writtenText_nil, List.append_nil]
  apply Course.outcome_of_play_failure hplay

/-- If the device refuses a flush behind a prompt then the session ends with this prompt. -/
theorem runSession_failingFlush_prompt {n : Nat}
    (h : (flushesOf (sessionCourse o input).events)[n]? = some .prompt) :
  ∃ text, promptOutput? o ((inputLines input).take n) = some text
    ∧ text <+: (runSession o {} input).transcript
    ∧ runSession o (.failingFlush (n + 1)) input = ⟨text, some (.flush .prompt)⟩
  := by
  obtain ⟨hn, p, hwait⟩ := exists_wait_of_getElem? h
  obtain ⟨after, ending, hcourse⟩ :=
    exists_sessionCourse_eq hwait (List.take_append_drop n (inputLines input)).symm
  have hplay := Device.play_append_flush (promptFront o ((inputLines input).take n) p) .prompt after
  rw [flushesOf_promptFront hwait, List.length_replicate, List.length_take_of_le hn] at hplay
  use writtenText (promptFront o ((inputLines input).take n) p), promptOutput?_of_wait hwait
  rw [runSession, runSession, Course.outcome_unlimited, hcourse]
  constructor
  · rw [writtenText_append]
    apply List.prefix_append
  · apply Course.outcome_of_play_failure hplay

/-! ### Room -/

/-- A device with room for the whole transcript does not fail. -/
theorem runSession_withRoom_of_le {n : Nat}
    (h : (runSession o {} input).transcript.utf8Length ≤ n) :
  runSession o (.withRoom n) input = runSession o {} input
  := by
  rw [runSession, Course.outcome_unlimited] at h
  apply Course.outcome_of_play_eq (Device.play_withRoom_of_le h)

/-- A device without room for the whole transcript fails to write a part of it. -/
theorem failure_runSession_withRoom_of_lt {n : Nat}
    (h : n < (runSession o {} input).transcript.utf8Length) :
  (runSession o (.withRoom n) input).failure = some .write
  := by
  rw [runSession, Course.outcome_unlimited] at h
  rw [runSession, Course.outcome, Device.failure_play_withRoom_of_lt h]
  rfl

/-! ### All failures -/

/-- A session flushes the output behind each of its prompts, of which there is one more than lines
that it has read by then, and behind the farewell unless it cannot read a line; in this case the
prompt for the line is the last that it has written. If the device refuses one of these flushes then
the session has written what it writes in any case, up to the prompt in question or up to the end,
and if the device refuses a later flush then it does not matter. With limited room the session fails
if it writes more than there is room for, and otherwise this does not matter either. -/
theorem runSession_fault (o : SessionOptions) (input : List UInt8) :
  let whole := runSession o {} input
  let flushes := flushesOf (sessionCourse o input).events
  (∃ lines, lines <+: inputLines input ∧ (promptOutput? o lines).isSome
      ∧ flushes = List.replicate (lines.length + 1) .prompt
        ++ if whole.failure = none then [.farewell] else [])
    ∧ (∀ n, flushes.length < n → runSession o (.failingFlush n) input = whole)
    ∧ (∀ n, flushes[n]? = some .prompt → ∃ text,
        promptOutput? o ((inputLines input).take n) = some text ∧ text <+: whole.transcript
          ∧ runSession o (.failingFlush (n + 1)) input = ⟨text, some (.flush .prompt)⟩)
    ∧ (∀ n, flushes[n]? = some .farewell →
        runSession o (.failingFlush (n + 1)) input = ⟨whole.transcript, some (.flush .farewell)⟩)
    ∧ (∀ n, whole.transcript.utf8Length ≤ n → runSession o (.withRoom n) input = whole)
    ∧ (∀ n, n < whole.transcript.utf8Length →
        (runSession o (.withRoom n) input).failure = some .write)
    ∧ (whole.failure = some .undecodable → ∃ lines line rest,
        inputLines input = lines ++ line :: rest ∧ decodeLine? line = none
          ∧ promptOutput? o lines = some whole.transcript
          ∧ flushes = List.replicate (lines.length + 1) .prompt)
    ∧ Failure.message (.flush .prompt) = "flushing prompt: flush failed".toList
    ∧ Failure.message (.flush .farewell) = "flushing output: flush failed".toList
    ∧ Failure.message .write = "write failed".toList
  := by
  refine ⟨?_, fun n => runSession_failingFlush_of_lt, fun n => runSession_failingFlush_prompt,
    fun n => runSession_failingFlush_farewell, fun n => runSession_withRoom_of_le,
    fun n => failure_runSession_withRoom_of_lt, exists_undecodable, rfl, rfl, rfl⟩
  obtain ⟨lines, p, hprefix, hwait, hflushes⟩ := exists_flushesOf_sessionCourse_eq o input
  use lines, hprefix
  rw [promptOutput?_of_wait hwait]
  use rfl

/-- The second prompt of a session, its farewell, and the prompt for an undecodable line. -/
theorem runSession_fault_prompt :
  let input := "1\n".toUTF8.data.toList
  let prompt := Phase.expression.prompt {}
  runSession {} (.failingFlush 2) input
      = ⟨banner ++ prompt ++ "Result: 1.0\n\n".toList ++ prompt, some (.flush .prompt)⟩
    ∧ runSession {} (.failingFlush 3) input
      = ⟨(runSession {} {} input).transcript, some (.flush .farewell)⟩
    ∧ runSession {} (.failingFlush 4) input = runSession {} {} input
    ∧ (runSession {} (.withRoom 250) input).failure = none
    ∧ (runSession {} (.withRoom 200) input).failure = some .write
    ∧ ∃ lines, promptOutput? {} lines = some (runSession {} {} (input ++ [255])).transcript
  := by
  intro input prompt
  obtain ⟨-, hlater, hprompt, hfarewell, hroom, hlimit, -⟩ := runSession_fault {} input
  refine ⟨?_, ?_, ?_, ?_, ?_, ?_⟩
  · obtain ⟨text, htext, -, houtcome⟩ := hprompt 1 (by decide +kernel)
    have houtput : promptOutput? {} ((inputLines input).take 1)
        = some (banner ++ prompt ++ "Result: 1.0\n\n".toList ++ prompt) := by decide +kernel
    rw [htext] at houtput
    rw [houtcome, Option.some_inj.mp houtput]
  · apply hfarewell 2 (by decide +kernel)
  · apply hlater 4 (by decide +kernel)
  · rw [hroom 250 (by decide +kernel)]
    decide +kernel
  · apply hlimit 200 (by decide +kernel)
  · obtain ⟨lines, -, -, -, -, houtput, -⟩ :=
      (runSession_fault {} (input ++ [255])).2.2.2.2.2.2.1 (by decide +kernel)
    use lines, houtput

end Reckoner
