import Reckoner.Proofs.Session.Encoding
import Reckoner.Proofs.Session.Sequence

/-!
# The exit word

Whoever enters the exit word at the prompt that names it leaves the session, provided that the word
is trimmed (`Phase.outcome_exitWord`). Blank characters at the ends of an entry do not count but
those of the exit word do, so that no entry is an exit word with such characters
(`Phase.run_continuation_ne_farewell`).
-/

namespace Reckoner

variable {o : SessionOptions} {p : Phase} {word : Text}

/-- The exit word, in whatever case its letters are, ends the session at the prompt for an
expression. -/
theorem Phase.outcome_exitWord (hexit : o.exitWord.IsTrimmed) (hbreak : '\n' ∉ o.exitWord)
    (hword : word.asciiLower = o.exitWord.asciiLower) (more : List UInt8) :
  Phase.expression.outcome o (inputLines (word.encoding ++ lineFeed :: more))
    = ⟨Phase.expression.prompt o ++ "Goodbye.\n".toList, none⟩
  := by
  have htrimmed : word.IsTrimmed := by
    rw [← Text.isTrimmed_asciiLower_iff, hword, Text.isTrimmed_asciiLower_iff]
    apply hexit
  have hline : '\n' ∉ word := by
    have hletter : isLetter '\n' = false := isLetter_eq_false_of_lt (by decide)
    rw [← Text.mem_asciiLower_iff hletter, hword, Text.mem_asciiLower_iff hletter]
    apply hbreak
  rw [inputLines_append_lineFeed (lineFeed_not_mem_encoding hline),
    Phase.outcome_cons (enteredText?_encoding htrimmed), Phase.replyToEntry_exitWord hword]
  rfl

/-! ### Exit words that cannot be entered -/

/-- A session goes on after it asks for a value, and after it reports one because there is none to
ask for. -/
theorem ask_next_ne_none (f : Formula) (names : List Text) :
  (ask f names).next ≠ none
  := by
  cases names with
  | nil => apply Option.some_ne_none
  | cons name names => apply Option.some_ne_none

/-- An entry is trimmed, and so it ends a session only if the exit word is trimmed. -/
theorem Phase.next_replyToEntry_ne_none (hexit : ¬o.exitWord.IsTrimmed) (hword : word.IsTrimmed) :
  (p.replyToEntry o word).next ≠ none
  := by
  cases p with
  | expression =>
    have hne : word.asciiLower ≠ o.exitWord.asciiLower := by
      intro heq
      apply hexit
      rw [← Text.isTrimmed_asciiLower_iff, ← heq, Text.isTrimmed_asciiLower_iff]
      apply hword
    rw [replyToEntry, if_neg hne]
    split
    · apply Option.some_ne_none
    split
    · apply ask_next_ne_none
    · apply Option.some_ne_none
  | value f name rest =>
    rw [replyToEntry]
    split
    · apply ask_next_ne_none
    · apply Option.some_ne_none

/-- No line ends a session at its exit word if the exit word is not trimmed. -/
theorem Phase.turn_continuation_ne_farewell (hexit : ¬o.exitWord.IsTrimmed) (line : List UInt8) :
  (p.turn o line).continuation ≠ .stop .farewell
  := by
  cases hdecode : decodeLine? line with
  | none =>
    rw [turn_of_undecodable hdecode]
    intro h
    cases h
  | some text =>
    have hnext := next_replyToEntry_ne_none (p := p) hexit (Text.isTrimmed_trim text)
    rw [turn_of_enteredText? (enteredText?_of_decodeLine? hdecode), Reply.turn]
    split
    · intro h
      cases h
    · rename_i hnone
      cases hnext hnone

/-- No lines bring a session to its farewell if the exit word is not trimmed. -/
theorem Phase.run_continuation_ne_farewell (hexit : ¬o.exitWord.IsTrimmed)
    (lines : List (List UInt8)) :
  (p.run o lines).continuation ≠ .stop .farewell
  := by
  induction lines generalizing p with
  | nil =>
    intro h
    cases h
  | cons line rest ih =>
    cases hturn : (p.turn o line).continuation with
    | wait next =>
      rw [run_cons_of_wait hturn]
      apply ih
    | stop e =>
      rw [run_cons_of_stop hturn]
      apply turn_continuation_ne_farewell hexit

/-- An exit word without line breaks ends the session, in whatever case its letters are, if it is
entered where the session waits for an expression. The session then succeeds, whatever follows in
the input, and what it writes is what it has written up to that prompt, and the farewell. This takes
an exit word without blank characters at its ends, which the session drops from every entry. With
any other exit word no input brings the session to its farewell before the input is at its end. -/
theorem runSession_exitWord (hbreak : '\n' ∉ o.exitWord) :
  (o.exitWord.IsTrimmed → ∀ input, EndsLine input → EndsWaiting o input →
      ∃ text, runSession o {} input
          = ⟨text ++ Phase.expression.prompt o ++ "\nGoodbye.\n".toList, none⟩
        ∧ ∀ (word : Text) more, word.asciiLower = o.exitWord.asciiLower →
          runSession o {} (input ++ (word.encoding ++ lineFeed :: more))
            = ⟨text ++ Phase.expression.prompt o ++ "Goodbye.\n".toList, none⟩)
    ∧ (¬o.exitWord.IsTrimmed → ∀ input,
        (Phase.expression.run o (inputLines input)).continuation ≠ .stop .farewell)
  := by
  constructor
  · intro hexit input hinput hwaiting
    obtain ⟨text, htext, hmore⟩ := hwaiting.runSession_append hinput
    use text, htext
    intro word more hword
    obtain ⟨tail, htail, happend⟩ := hmore (word.encoding ++ lineFeed :: more)
    have hnew : runSession o {} (word.encoding ++ lineFeed :: more)
        = ⟨banner ++ (Phase.expression.prompt o ++ "Goodbye.\n".toList), none⟩ := by
      rw [runSession_eq, Phase.outcome_exitWord hexit hbreak hword]
      rfl
    rw [hnew] at htail happend
    rw [happend, ← List.append_cancel_left htail, List.append_assoc]
  · intro hexit input
    apply Phase.run_continuation_ne_farewell hexit

/-- After a sum the exit word is entered with a letter in upper case, and an undecodable line behind
it is not read. An exit word with a blank character at its end is entered in vain. -/
theorem runSession_exitWord_upper :
  let o : SessionOptions := { exitWord := "été".toList }
  ∃ text, runSession o {} "1+1\n".toUTF8.data.toList
      = ⟨text ++ Phase.expression.prompt o ++ "\nGoodbye.\n".toList, none⟩
    ∧ runSession o {}
        ("1+1\n".toUTF8.data.toList ++ (Text.encoding "éTé".toList ++ [lineFeed, 255]))
      = ⟨text ++ Phase.expression.prompt o ++ "Goodbye.\n".toList, none⟩
    ∧ (Phase.expression.run { exitWord := "bye ".toList }
        (inputLines "bye \nbye\n".toUTF8.data.toList)).continuation ≠ .stop .farewell
  := by
  intro o
  obtain ⟨text, hinput, hexit⟩ := (runSession_exitWord (o := o) (by decide +kernel)).1
    (by decide +kernel) "1+1\n".toUTF8.data.toList (by decide +kernel) (by decide +kernel)
  refine ⟨text, hinput, hexit "éTé".toList [255] (by decide +kernel), ?_⟩
  apply (runSession_exitWord (by decide +kernel)).2 (by decide +kernel)

/-- An exit word with a blank character at its end does not end the session when it is entered: it
is taken for a variable, and the session asks for its value. -/
theorem not_forall_runSession_exitWord :
  ¬∀ (o : SessionOptions) input text (word : Text) more, '\n' ∉ o.exitWord → EndsLine input →
      EndsWaiting o input →
      (runSession o {} input).transcript = text ++ "\nGoodbye.\n".toList →
      word.asciiLower = o.exitWord.asciiLower →
      runSession o {} (input ++ (word.encoding ++ lineFeed :: more))
        = ⟨text ++ "Goodbye.\n".toList, none⟩
  := by
  intro h
  let o : SessionOptions := { exitWord := "bye ".toList }
  have hbye := h o [] (banner ++ Phase.expression.prompt o) "bye ".toList [] (by decide +kernel)
    (by decide +kernel) (by decide +kernel) (by decide +kernel) rfl
  revert hbye
  decide +kernel

end Reckoner
