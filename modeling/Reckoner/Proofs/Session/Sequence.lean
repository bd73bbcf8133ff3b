import Reckoner.Proofs.Session.Prompts

/-!
# Sessions one after the other

A session that waits for an expression remembers nothing: it goes on as a new one would, and only
the banner is missing (`runSession_append`). A session that has met the exit word reads nothing
behind it. Each line is read at most once, so that every session comes to an end.
-/

namespace Reckoner

variable {o : SessionOptions} {input : List UInt8}

/-- Whether a session waits for an expression can be decided. -/
instance (c : Continuation) : Decidable (c = .wait .expression) :=
  match c with
  | .wait .expression => isTrue rfl
  | .wait (.value ..) => isFalse nofun
  | .stop _ => isFalse nofun

/-- A session on an input waits for an expression when the input is at its end. -/
def EndsWaiting (o : SessionOptions) (input : List UInt8) : Prop :=
  (Phase.expression.run o (inputLines input)).continuation = .wait .expression

instance : DecidablePred (EndsWaiting o) := fun input =>
  inferInstanceAs (Decidable ((Phase.expression.run o (inputLines input)).continuation = _))

/-- A session on an input meets the exit word: this is the entry on a line where the session waits
for an expression, in whatever case its letters are. -/
def MeetsExitWord (o : SessionOptions) (input : List UInt8) : Prop :=
  ∃ before line after word, inputLines input = before ++ line :: after
    ∧ (Phase.expression.run o before).continuation = .wait .expression
    ∧ enteredText? line = some word ∧ word.asciiLower = o.exitWord.asciiLower

/-- No text but the farewell answers the exit word. -/
theorem Phase.replyToEntry_exitWord {word : Text} (h : word.asciiLower = o.exitWord.asciiLower) :
  Phase.expression.replyToEntry o word = ⟨[], none⟩
  := by
  rw [replyToEntry, if_pos h]

/-- A session stops when it meets the exit word. -/
theorem MeetsExitWord.run_continuation (h : MeetsExitWord o input) :
  (Phase.expression.run o (inputLines input)).continuation = .stop .farewell
  := by
  obtain ⟨before, line, after, word, hlines, hwait, hentry, hword⟩ := h
  have hturn : (Phase.expression.turn o line).continuation = .stop .farewell := by
    rw [Phase.turn_of_enteredText? hentry, Phase.replyToEntry_exitWord hword, Reply.turn]
  rw [hlines, Phase.run_append, Turn.andThen_of_wait hwait, Phase.run_cons_of_stop hturn]
  apply hturn

/-- A session goes on behind an input as a new one that has shown the banner already. -/
theorem EndsWaiting.runSession_append (h : EndsWaiting o input) (hinput : EndsLine input) :
  ∃ text, runSession o {} input
      = ⟨text ++ Phase.expression.prompt o ++ "\nGoodbye.\n".toList, none⟩
    ∧ ∀ more, ∃ tail, (runSession o {} more).transcript = banner ++ tail
      ∧ runSession o {} (input ++ more) = ⟨text ++ tail, (runSession o {} more).failure⟩
  := by
  have happend : ∀ more, runSession o {} (input ++ more)
      = (Phase.expression.outcome o (inputLines more)).after
          (banner ++ writtenText (Phase.expression.run o (inputLines input)).events) := by
    intro more
    rw [runSession_eq, inputLines_append hinput, Phase.outcome_append_of_wait h,
      Outcome.after_append]
  use banner ++ writtenText (Phase.expression.run o (inputLines input)).events
  constructor
  · have hnil := happend []
    rw [List.append_nil] at hnil
    rw [hnil, inputLines, Phase.outcome_nil, Outcome.after, ← List.append_assoc]
  · intro more
    use (Phase.expression.outcome o (inputLines more)).transcript
    rw [happend, runSession_eq]
    exact ⟨rfl, rfl⟩

/-- What is behind the exit word is not read. -/
theorem MeetsExitWord.runSession_append (h : MeetsExitWord o input) (hinput : EndsLine input)
    (more : List UInt8) :
  runSession o {} (input ++ more) = runSession o {} input
    ∧ (runSession o {} input).failure = none
  := by
  have houtcome := Phase.outcome_append_of_stop h.run_continuation
  have hinputOnly := houtcome []
  rw [List.append_nil] at hinputOnly
  rw [runSession_eq, runSession_eq, inputLines_append hinput, houtcome, hinputOnly]
  exact ⟨rfl, rfl⟩

/-- On a device that does not fail a session succeeds unless it cannot read a line. -/
theorem failure_runSession (o : SessionOptions) (input : List UInt8) :
  (runSession o {} input).failure = none ∨ (runSession o {} input).failure = some .undecodable
  := by
  rw [runSession, Course.outcome_unlimited]
  cases (sessionCourse o input).ending with
  | farewell => exact .inl rfl
  | undecodable => exact .inr rfl

/-- A session shows at most one prompt more than there are lines. -/
theorem count_prompts_le (o : SessionOptions) (input : List UInt8) :
  (flushesOf (sessionCourse o input).events).count .prompt ≤ (inputLines input).length + 1
  := by
  obtain ⟨before, -, hbefore, -, hflushes⟩ :=
    exists_flushesOf_courseFrom_eq o .expression (inputLines input)
  change (flushesOf (courseFrom o .expression (inputLines input)).events).count .prompt ≤ _
  rw [hflushes, List.count_append, List.count_replicate_self, Ending.count_prompt_flushes]
  apply Nat.succ_le_succ hbefore.length_le

/-- A session that waits for an expression at the end of an input goes on behind it as a new session
does: it ends in the same way, and it writes what it has written so far without the prompt and the
farewell, and then what the new session writes without the banner. A session that has met the exit
word has succeeded and reads nothing of what follows. Every session ends, after at most one prompt
more than there are lines. -/
theorem runSession_sequence (o : SessionOptions) :
  (∀ input, EndsLine input → EndsWaiting o input →
      ∃ text, runSession o {} input
          = ⟨text ++ Phase.expression.prompt o ++ "\nGoodbye.\n".toList, none⟩
        ∧ ∀ more, ∃ tail, (runSession o {} more).transcript = banner ++ tail
          ∧ runSession o {} (input ++ more) = ⟨text ++ tail, (runSession o {} more).failure⟩)
    ∧ (∀ input, EndsLine input → MeetsExitWord o input → ∀ more,
        runSession o {} (input ++ more) = runSession o {} input
          ∧ (runSession o {} input).failure = none)
    ∧ ∀ input, ((runSession o {} input).failure = none
          ∨ (runSession o {} input).failure = some .undecodable)
        ∧ (flushesOf (sessionCourse o input).events).count .prompt
          ≤ (inputLines input).length + 1
  := by
  refine ⟨?_, ?_, ?_⟩
  · intro input hinput hwaiting
    apply hwaiting.runSession_append hinput
  · intro input hinput hmeets
    apply hmeets.runSession_append hinput
  · intro input
    use failure_runSession o input
    apply count_prompts_le

/-- Behind an expression another one with an undecodable line after it, and behind the exit word
only such a line. -/
theorem runSession_sequence_exit :
  let first := "1+1\n".toUTF8.data.toList
  let exit := "EXIT\n".toUTF8.data.toList
  (∃ text tail, (runSession {} {} first).transcript
        = text ++ Phase.expression.prompt {} ++ "\nGoodbye.\n".toList
      ∧ (runSession {} {} (first ++ [255])).transcript = banner ++ tail
      ∧ runSession {} {} (first ++ (first ++ [255])) = ⟨text ++ tail, some .undecodable⟩)
    ∧ runSession {} {} (first ++ exit ++ [255]) = runSession {} {} (first ++ exit)
  := by
  intro first exit
  constructor
  · obtain ⟨text, hfirst, hmore⟩ := (runSession_sequence {}).1 first (by decide +kernel)
      (by decide +kernel)
    obtain ⟨tail, htail, happend⟩ := hmore (first ++ [255])
    have hfailure : (runSession {} {} (first ++ [255])).failure = some .undecodable := by
      decide +kernel
    use text, tail
    rw [hfirst, happend, htail, hfailure]
    exact ⟨rfl, rfl, rfl⟩
  · have hmeets : MeetsExitWord {} (first ++ exit) :=
      ⟨[first], exit, [], "EXIT".toList, by decide +kernel, by decide +kernel, by decide +kernel,
        by decide +kernel⟩
    apply ((runSession_sequence {}).2.1 (first ++ exit) (by decide +kernel) hmeets [255]).1

end Reckoner
