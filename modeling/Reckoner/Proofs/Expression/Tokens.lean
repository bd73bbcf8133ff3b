import Mathlib.Data.List.TakeWhile
import Mathlib.Tactic.Common
import Reckoner.Expression.Lexeme
import Reckoner.Expression.Tree
import Reckoner.Proofs.Text.Class

/-!
# The tokens of a text

Tokens do not depend on where a text starts, and the tokens of two texts one after the other are
those of the first followed by those of the second unless a run continues across the seam. A text
is therefore understood by going through it a run of letters at a time: `Text.runInduction` is the
principle of this kind, and `tokens_letters` says that such a run is one name.
-/

namespace Reckoner

/-! ### Joined tokens -/

/-- Two characters are akin if they belong to the same run when one follows the other. -/
def Akin (a b : Char) : Prop :=
  isLetter a ∧ isLetter b ∨ Number.isNumeric a ∧ Number.isNumeric b

namespace Token

theorem ofChar_of_isLetter {c : Char} (h : isLetter c) :
  ofChar c = name [c]
  := by
  have hnumeric := Bool.eq_false_iff.mp (isNumeric_of_isLetter h)
  rw [ofChar, if_neg hnumeric, if_pos h]

theorem ofChar_of_isNumeric {c : Char} (h : Number.isNumeric c) :
  ofChar c = number [c]
  := by
  rw [ofChar, if_pos h]

theorem ofChar_symbol (o : Operator) :
  ofChar o.symbol = operator o
  := by
  have hnumeric : ¬Number.isNumeric o.symbol := by
    rw [isNumeric_symbol]
    apply Bool.false_ne_true
  have hletter : ¬isLetter o.symbol := by
    rw [isLetter_symbol]
    apply Bool.false_ne_true
  rw [ofChar, if_neg hnumeric, if_neg hletter]
  cases o <;> rfl

theorem isNumeric_of_ofChar {c : Char} {s : Text} (h : ofChar c = number s) :
  Number.isNumeric c
  := by
  unfold ofChar at h
  split at h
  · assumption
  · repeat' split at h
    all_goals cases h

theorem isLetter_of_ofChar {c : Char} {s : Text} (h : ofChar c = name s) :
  isLetter c
  := by
  unfold ofChar at h
  split at h
  · cases h
  · split at h
    · assumption
    · repeat' split at h
      all_goals cases h

/-- Two tokens are joined if both are numbers or both are names. -/
theorem append?_eq_some_iff {a b joined : Token} :
  a.append? b = some joined
    ↔ (∃ s t, a = number s ∧ b = number t ∧ joined = number (s ++ t))
      ∨ ∃ s t, a = name s ∧ b = name t ∧ joined = name (s ++ t)
  := by
  cases a <;> cases b <;> simp [append?, eq_comm]

/-- The tokens of two characters are joined only if the characters are akin. -/
theorem append?_ofChar_ofChar {a b : Char} (h : ¬Akin a b) :
  append? (ofChar a) (ofChar b) = none
  := by
  rw [Option.eq_none_iff_forall_ne_some]
  intro joined hjoined
  apply h
  rcases append?_eq_some_iff.mp hjoined with ⟨s, t, ha, hb, -⟩ | ⟨s, t, ha, hb, -⟩
  · right
    use isNumeric_of_ofChar ha, isNumeric_of_ofChar hb
  · left
    use isLetter_of_ofChar ha, isLetter_of_ofChar hb

/-- A joined token is joined with those in front of it that its first part is joined with. -/
theorem append?_eq_none_iff {a b c joined : Token} (h : append? b c = some joined) :
  append? a joined = none ↔ append? a b = none
  := by
  rcases append?_eq_some_iff.mp h with ⟨s, t, rfl, rfl, rfl⟩ | ⟨s, t, rfl, rfl, rfl⟩
  · cases a <;> simp [append?]
  · cases a <;> simp [append?]

end Token

/-! ### Positions -/

namespace Lexeme

/-- The lexeme a number of bytes further on. -/
def shift (offset : Nat) (l : Lexeme) : Lexeme :=
  ⟨l.token, l.start + offset, l.stop + offset⟩

/-- Two lexemes are joined if and only if one stops where the other starts and their tokens are
joined. -/
theorem join?_eq_some_iff {a b joined : Lexeme} :
  a.join? b = some joined
    ↔ a.stop = b.start ∧ ∃ t, a.token.append? b.token = some t ∧ ⟨t, a.start, b.stop⟩ = joined
  := by
  rw [join?]
  split
  · rename_i hadjacent
    rw [and_iff_right hadjacent, Option.map_eq_some_iff]
  · rename_i hapart
    rw [iff_false_right (not_and_of_not_left _ hapart)]
    apply (Option.some_ne_none joined).symm

/-- Shifted lexemes are joined as those that are not shifted. -/
theorem join?_shift (offset : Nat) (a b : Lexeme) :
  (a.shift offset).join? (b.shift offset) = (a.join? b).map (shift offset)
  := by
  simp only [join?, shift, Nat.add_right_cancel_iff]
  split
  · rw [Option.map_map]
    rfl
  · rfl

theorem attach_shift (offset : Nat) (a : Lexeme) (ls : List Lexeme) :
  (a.shift offset).attach (ls.map (shift offset)) = (a.attach ls).map (shift offset)
  := by
  cases ls with
  | nil => rfl
  | cons b rest =>
    rw [List.map_cons, attach, attach, join?_shift]
    cases a.join? b with
    | none => rfl
    | some joined => rfl

end Lexeme

/-- A blank character only moves the lexemes behind it. -/
theorem lexemesFrom_cons_of_isBlank {c : Char} (h : isBlank c) (position : Nat) (s : Text) :
  lexemesFrom position (c :: s) = lexemesFrom (position + c.utf8Size) s
  := by
  rw [lexemesFrom, if_pos h]

/-- A character that is not blank is attached to the lexemes behind it. -/
theorem lexemesFrom_cons {c : Char} (h : isBlank c = false) (position : Nat) (s : Text) :
  lexemesFrom position (c :: s)
    = (Lexeme.single position c).attach (lexemesFrom (position + c.utf8Size) s)
  := by
  rw [lexemesFrom, if_neg (Bool.eq_false_iff.mp h)]

/-- The lexemes that are counted from a later position are shifted. -/
theorem lexemesFrom_add (position offset : Nat) (s : Text) :
  lexemesFrom (position + offset) s = (lexemesFrom position s).map (Lexeme.shift offset)
  := by
  induction s generalizing position with
  | nil => rfl
  | cons c s ih =>
    simp only [lexemesFrom]
    rw [Nat.add_right_comm, ih]
    split
    · rfl
    · rw [← Lexeme.attach_shift, Lexeme.shift, Lexeme.single, Lexeme.single, Nat.add_right_comm]

/-- The lexemes that are counted from a position are those of the text, shifted to it. -/
theorem lexemesFrom_eq_map_shift (position : Nat) (s : Text) :
  lexemesFrom position s = (lexemes s).map (Lexeme.shift position)
  := by
  rw [lexemes, ← lexemesFrom_add, Nat.zero_add]

/-- The tokens of a text do not depend on the position where it starts. -/
theorem tokens_lexemesFrom (position : Nat) (s : Text) :
  (lexemesFrom position s).map Lexeme.token = tokens s
  := by
  rw [lexemesFrom_eq_map_shift, List.map_map]
  rfl

/-- No lexeme of a text starts in front of it. -/
theorem le_start_of_mem_lexemesFrom {position : Nat} {s : Text} {l : Lexeme}
    (h : l ∈ lexemesFrom position s) :
  position ≤ l.start
  := by
  induction s generalizing position l with
  | nil => cases h
  | cons c s ih =>
    have hrest : ∀ l ∈ lexemesFrom (position + c.utf8Size) s, position ≤ l.start :=
      fun l hl => Nat.le_of_add_right_le (ih hl)
    simp only [lexemesFrom] at h
    split at h
    · apply hrest l h
    · unfold Lexeme.attach at h
      split at h
      · rw [List.mem_singleton.mp h]
        apply Nat.le_refl
      · rename_i b rest hb
        rw [hb] at hrest
        split at h
        · rename_i joined hjoined
          rcases List.mem_cons.mp h with rfl | h
          · obtain ⟨-, t, -, rfl⟩ := Lexeme.join?_eq_some_iff.mp hjoined
            apply Nat.le_refl
          · apply hrest l (List.mem_cons_of_mem _ h)
        · rcases List.mem_cons.mp h with rfl | h
          · apply Nat.le_refl
          · apply hrest l h

/-- A lexeme stands alone in front of others if it is not adjacent to the first of them or is not
joined with it. -/
theorem Lexeme.attach_eq_cons {a : Lexeme} {ls : List Lexeme}
    (h : ∀ b ∈ ls.head?, a.stop ≠ b.start ∨ a.token.append? b.token = none) :
  a.attach ls = a :: ls
  := by
  cases ls with
  | nil => rfl
  | cons b rest =>
    have hjoin : a.join? b = none := by
      rcases h b rfl with hne | hnone
      · rw [join?, if_neg hne]
      · rw [join?, hnone]
        split
        · rfl
        · rfl
    rw [attach, hjoin]

/-- A lexeme is attached to the first one of a list, whatever follows. -/
theorem Lexeme.attach_append (a : Lexeme) {ls : List Lexeme} (h : ls ≠ []) (ms : List Lexeme) :
  a.attach (ls ++ ms) = a.attach ls ++ ms
  := by
  obtain ⟨b, rest, rfl⟩ := List.exists_cons_of_ne_nil h
  rw [List.cons_append, attach, attach]
  cases a.join? b with
  | none => rfl
  | some joined => rfl

/-- A text that starts with a character that is not blank has a lexeme at its start, with which
another one in front of it is joined exactly if it is joined with the character. -/
theorem exists_lexemesFrom_cons {c : Char} (hc : isBlank c = false) (position : Nat) (s : Text) :
  ∃ first rest, lexemesFrom position (c :: s) = first :: rest ∧ first.start = position
    ∧ ∀ a : Token, a.append? first.token = none ↔ a.append? (.ofChar c) = none
  := by
  rw [lexemesFrom_cons hc]
  cases lexemesFrom (position + c.utf8Size) s with
  | nil => exact ⟨_, _, rfl, rfl, fun a => Iff.rfl⟩
  | cons b rest =>
    rw [Lexeme.attach]
    cases hjoin : (Lexeme.single position c).join? b with
    | none => exact ⟨_, _, rfl, rfl, fun a => Iff.rfl⟩
    | some joined =>
      obtain ⟨-, t, ht, rfl⟩ := Lexeme.join?_eq_some_iff.mp hjoin
      exact ⟨_, _, rfl, rfl, fun a => Token.append?_eq_none_iff ht⟩

/-- A lexeme right at the start of a text is that of the first character. -/
theorem exists_cons_of_start {position : Nat} {s : Text} {b : Lexeme}
    (hb : b ∈ (lexemesFrom position s).head?) (hstart : b.start = position) :
  ∃ c rest, s = c :: rest
    ∧ ∀ a : Token, a.append? b.token = none ↔ a.append? (.ofChar c) = none
  := by
  cases s with
  | nil => cases hb
  | cons c s =>
    refine ⟨c, s, rfl, ?_⟩
    by_cases hc : isBlank c
    · rw [lexemesFrom_cons_of_isBlank hc] at hb
      have hle := le_start_of_mem_lexemesFrom (List.mem_of_mem_head? hb)
      have hpos := c.utf8Size_pos
      omega
    · rw [Bool.not_eq_true] at hc
      obtain ⟨first, rest, hfirst, -, hjoin⟩ := exists_lexemesFrom_cons hc position s
      rw [hfirst] at hb
      cases hb
      apply hjoin

/-! ### Seams -/

/-- No run continues from the first of two texts into the second. -/
def IsSeam (s t : Text) : Prop :=
  ∀ a ∈ s.getLast?, ∀ b ∈ t.head?, ¬Akin a b

/-- Where no run continues from a text, none continues from its tail. -/
theorem IsSeam.of_cons {c : Char} {s t : Text} (h : IsSeam (c :: s) t) :
  IsSeam s t
  := by
  intro a ha
  apply h a
  rw [List.getLast?_cons, Option.mem_def.mp ha]
  rfl

/-- The last character in front of a seam is not joined with what is behind the seam. -/
theorem attach_lexemesFrom_of_isSeam {c : Char} {s t : Text} (h : IsSeam (c :: s) t)
    (position : Nat) :
  (Lexeme.single position c).attach
      (lexemesFrom (position + Text.utf8Length (c :: s)) t)
    = Lexeme.single position c :: lexemesFrom (position + Text.utf8Length (c :: s)) t
  := by
  apply Lexeme.attach_eq_cons
  intro b hb
  by_cases hstart : (Lexeme.single position c).stop = b.start
  · right
    have hle := le_start_of_mem_lexemesFrom (List.mem_of_mem_head? hb)
    have hempty : s = [] := by
      cases s with
      | nil => rfl
      | cons d s =>
        have hpos := d.utf8Size_pos
        simp only [← hstart, Lexeme.single, Text.utf8Length_cons] at hle
        omega
    subst hempty
    obtain ⟨d, t, rfl, hjoin⟩ := exists_cons_of_start hb hstart.symm
    apply (hjoin _).mpr (Token.append?_ofChar_ofChar (h c rfl d rfl))
  · left
    apply hstart

/-- The lexemes of two texts one after the other are those of both if there is a seam between. -/
theorem lexemesFrom_append {s t : Text} (h : IsSeam s t) (position : Nat) :
  lexemesFrom position (s ++ t)
    = lexemesFrom position s ++ lexemesFrom (position + s.utf8Length) t
  := by
  induction s generalizing position with
  | nil => rfl
  | cons c s ih =>
    have hrest : lexemesFrom (position + c.utf8Size) (s ++ t)
        = lexemesFrom (position + c.utf8Size) s
          ++ lexemesFrom (position + Text.utf8Length (c :: s)) t := by
      rw [Text.utf8Length_cons, ← Nat.add_assoc]
      apply ih h.of_cons
    rw [List.cons_append]
    simp only [lexemesFrom]
    rw [hrest]
    split
    · rfl
    · by_cases hnil : lexemesFrom (position + c.utf8Size) s = []
      · rw [hnil]
        apply attach_lexemesFrom_of_isSeam h
      · apply Lexeme.attach_append _ hnil

/-- The tokens of two texts with a seam between them are those of the first and then those of the
second. -/
theorem tokens_append {s t : Text} (h : IsSeam s t) :
  tokens (s ++ t) = tokens s ++ tokens t
  := by
  rw [tokens, lexemes, lexemesFrom_append h, List.map_append, tokens_lexemesFrom,
    tokens_lexemesFrom]

theorem tokens_cons_of_isBlank {c : Char} (h : isBlank c) (s : Text) :
  tokens (c :: s) = tokens s
  := by
  rw [tokens, lexemes, lexemesFrom_cons_of_isBlank h]
  apply tokens_lexemesFrom

/-- The first character of a text that is not blank is a token in front of the others or belongs to
the first of them. -/
theorem tokens_cons {c : Char} (h : isBlank c = false) (s : Text) :
  tokens (c :: s) = .ofChar c :: tokens s
    ∨ ∃ first rest joined, tokens s = first :: rest ∧ (Token.ofChar c).append? first = some joined
      ∧ tokens (c :: s) = joined :: rest
  := by
  rw [← tokens_lexemesFrom (0 + c.utf8Size) s, tokens, lexemes, lexemesFrom_cons h]
  cases lexemesFrom (0 + c.utf8Size) s with
  | nil =>
    left
    rfl
  | cons b rest =>
    rw [Lexeme.attach]
    cases hjoin : (Lexeme.single 0 c).join? b with
    | none =>
      left
      rfl
    | some joined =>
      right
      obtain ⟨-, t, ht, rfl⟩ := Lexeme.join?_eq_some_iff.mp hjoin
      exact ⟨b.token, rest.map Lexeme.token, t, rfl, ht, rfl⟩

/-- A character that begins no run is a token of its own. -/
theorem tokens_cons_of_not_run {c : Char} (hblank : isBlank c = false)
    (hletter : isLetter c = false) (hnumeric : Number.isNumeric c = false) (s : Text) :
  tokens (c :: s) = .ofChar c :: tokens s
  := by
  rcases tokens_cons hblank s with htokens | ⟨first, rest, joined, -, hjoined, -⟩
  · apply htokens
  · rcases Token.append?_eq_some_iff.mp hjoined with ⟨_, _, hc, -⟩ | ⟨_, _, hc, -⟩
    · apply (Bool.eq_false_iff.mp hnumeric (Token.isNumeric_of_ofChar hc)).elim
    · apply (Bool.eq_false_iff.mp hletter (Token.isLetter_of_ofChar hc)).elim

/-- The symbol of an operator is a token by itself. -/
theorem tokens_symbol (o : Operator) (s : Text) :
  tokens (o.symbol :: s) = .operator o :: tokens s
  := by
  rw [tokens_cons_of_not_run (isBlank_symbol o) (isLetter_symbol o) (isNumeric_symbol o),
    Token.ofChar_symbol]

theorem tokens_leftParen (s : Text) :
  tokens ('(' :: s) = .leftParen :: tokens s
  := tokens_cons_of_not_run rfl isLetter_leftParen rfl s

theorem tokens_rightParen (s : Text) :
  tokens (')' :: s) = .rightParen :: tokens s
  := tokens_cons_of_not_run rfl isLetter_rightParen rfl s

/-! ### Runs -/

/-- Characters that are all akin to each other are one lexeme. -/
theorem lexemesFrom_run (make : Text → Token) {run : Text} (hne : run ≠ [])
    (hblank : ∀ c ∈ run, isBlank c = false) (hofChar : ∀ c ∈ run, Token.ofChar c = make [c])
    (happend : ∀ s t, (make s).append? (make t) = some (make (s ++ t))) (position : Nat) :
  lexemesFrom position run = [⟨make run, position, position + run.utf8Length⟩]
  := by
  induction run generalizing position with
  | nil => cases hne rfl
  | cons c run ih =>
    have hsingle : Lexeme.single position c = ⟨make [c], position, position + c.utf8Size⟩ := by
      rw [Lexeme.single, hofChar c List.mem_cons_self]
    rw [lexemesFrom_cons (hblank c List.mem_cons_self)]
    rw [hsingle]
    cases run with
    | nil => rfl
    | cons d run =>
      rw [ih (List.cons_ne_nil d run) (fun e he => hblank e (List.mem_cons_of_mem c he))
        fun e he => hofChar e (List.mem_cons_of_mem c he)]
      simp only [Lexeme.attach, Lexeme.join?, happend, if_true, Option.map_some]
      rw [List.singleton_append, Text.utf8Length_cons c, Nat.add_assoc]

/-- A name is one token. -/
theorem tokens_name {run : Text} (h : IsName run) :
  tokens run = [.name run]
  := by
  rw [tokens, lexemes, lexemesFrom_run Token.name h.1
    (fun c hc => isBlank_of_isLetter (h.2 c hc)) (fun c hc => Token.ofChar_of_isLetter (h.2 c hc))
    fun s t => rfl]
  rfl

/-- Numeric characters one after the other are one token. -/
theorem tokens_numeric {run : Text} (hne : run ≠ []) (h : ∀ c ∈ run, Number.isNumeric c) :
  tokens run = [.number run]
  := by
  rw [tokens, lexemes, lexemesFrom_run Token.number hne
    (fun c hc => isBlank_of_isNumeric (h c hc)) (fun c hc => Token.ofChar_of_isNumeric (h c hc))
    fun s t => rfl]
  rfl

/-- A text that starts with a character of a class starts with a run of such characters that does
not continue. -/
theorem exists_run {p : Char → Bool} {c : Char} (h : p c) (s : Text) :
  ∃ run rest, c :: s = run ++ rest ∧ run ≠ [] ∧ (∀ d ∈ run, p d)
    ∧ (∀ d ∈ rest.head?, p d = false) ∧ rest.length ≤ s.length
  := by
  use (c :: s).takeWhile p, (c :: s).dropWhile p, List.takeWhile_append_dropWhile.symm
  refine ⟨?_, fun d hd => List.mem_takeWhile_imp hd, ?_, ?_⟩
  · rw [List.takeWhile_cons_of_pos h]
    apply List.cons_ne_nil
  · intro d hd
    have hhead := List.head?_dropWhile_not p (c :: s)
    rw [Option.mem_def.mp hd] at hhead
    apply hhead
  · rw [List.dropWhile_cons_of_pos h]
    apply (List.dropWhile_suffix p).length_le

/-- A text that starts with a letter starts with a run of letters that does not continue. -/
theorem exists_run_of_isLetter {c : Char} (h : isLetter c) (s : Text) :
  ∃ run rest, c :: s = run ++ rest ∧ IsName run ∧ (∀ d ∈ rest.head?, isLetter d = false)
    ∧ rest.length ≤ s.length
  := by
  obtain ⟨run, rest, hs, hne, hrun, hrest, hle⟩ := exists_run h s
  use run, rest, hs, ⟨hne, hrun⟩, hrest

/-- Induction on a text that takes a whole run of letters at a time. -/
@[elab_as_elim]
theorem Text.runInduction {motive : Text → Prop} (nil : motive [])
    (cons : ∀ c s, isLetter c = false → motive s → motive (c :: s))
    (run : ∀ run s, IsName run → (∀ c ∈ s.head?, isLetter c = false) → motive s →
      motive (run ++ s))
    (s : Text) :
  motive s
  := by
  induction hlength : s.length using Nat.strongRecOn generalizing s with
  | ind n ih =>
    cases s with
    | nil => apply nil
    | cons c s =>
      have hlt : s.length < n := hlength ▸ Nat.lt_succ_self s.length
      by_cases hc : isLetter c
      · obtain ⟨run', rest, hs, hname, hrest, hle⟩ := exists_run_of_isLetter hc s
        rw [hs]
        apply run run' rest hname hrest
        apply ih rest.length (Nat.lt_of_le_of_lt hle hlt) rest rfl
      · rw [Bool.not_eq_true] at hc
        apply cons c s hc
        apply ih s.length hlt s rfl

/-- Induction on a text that takes a whole run of letters at a time and tells blank characters, of
which no token has one, from all others. -/
@[elab_as_elim]
theorem Text.partInduction {motive : Text → Prop} (nil : motive [])
    (blank : ∀ c s, isBlank c → motive s → motive (c :: s))
    (cons : ∀ c s, isBlank c = false → isLetter c = false → motive s → motive (c :: s))
    (run : ∀ run s, IsName run → (∀ c ∈ s.head?, isLetter c = false) → motive s →
      motive (run ++ s))
    (s : Text) :
  motive s
  := by
  induction s using runInduction with
  | nil => apply nil
  | cons c s hc ih =>
    cases hblank : isBlank c with
    | true => apply blank c s hblank ih
    | false => apply cons c s hblank hc ih
  | run run' s hrun hs ih => apply run run' s hrun hs ih

/-- A run of letters does not continue into a text that does not start with a letter. -/
theorem isSeam_of_isName {run s : Text} (hrun : IsName run)
    (hs : ∀ c ∈ s.head?, isLetter c = false) :
  IsSeam run s
  := by
  intro a ha b hb hakin
  have hletter := hrun.2 a (List.mem_of_mem_getLast? ha)
  rcases hakin with ⟨-, hb'⟩ | ⟨ha', -⟩
  · rw [hs b hb] at hb'
    cases hb'
  · rw [isNumeric_of_isLetter hletter] at ha'
    cases ha'

/-- Behind a character that is part of no run there is a seam. -/
theorem isSeam_append_singleton {c : Char} (hletter : isLetter c = false)
    (hnumeric : Number.isNumeric c = false) (s t : Text) :
  IsSeam (s ++ [c]) t
  := by
  intro a ha b _ hakin
  rw [List.getLast?_concat, Option.mem_some_iff] at ha
  subst ha
  rcases hakin with ⟨ha', -⟩ | ⟨ha', -⟩
  · rw [hletter] at ha'
    cases ha'
  · rw [hnumeric] at ha'
    cases ha'

/-- No letter comes to the start of a text without one when a character that is no letter follows.
-/
theorem isLetter_of_mem_head? {c : Char} {s : Text} (hc : isLetter c = false)
    (hs : ∀ d ∈ s.head?, isLetter d = false) (t : Text) :
  ∀ d ∈ (s ++ c :: t).head?, isLetter d = false
  := by
  intro d hd
  cases s with
  | nil =>
    cases hd
    apply hc
  | cons e s => apply hs d hd

end Reckoner
