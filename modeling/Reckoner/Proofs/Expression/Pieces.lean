import Mathlib.Data.List.Basic
import Reckoner.Proofs.Expression.Descent
import Reckoner.Proofs.Expression.Names

/-!
# Where a malformed piece stands

A reduction looks at the pieces of a text from the left, and the first one that is malformed ends
it. In front of the piece that it reports are therefore only parentheses that are opened and
operands that reduce to numbers, which makes `IsPassed`, and behind the piece follows an operator, a
parenthesis that is closed or the end of the text (`exists_of_reduceFreely`). No name of the text
reaches across these, so that the names of the piece are among those of the text
(`mem_nameRuns_of_reduce`).
-/

namespace Reckoner

variable {s before piece after : Text}

/-- A piece can start behind a text that is empty or ends with the symbol of an operator or with an
opening parenthesis. -/
def OpensPiece (before : Text) : Prop :=
  ∀ c ∈ before.getLast?, c = '(' ∨ ∃ o : Operator, c = o.symbol

/-- A piece can stop in front of a text that is empty or starts with the symbol of an operator or
with a closing parenthesis. -/
def ClosesPiece (after : Text) : Prop :=
  ∀ c ∈ after.head?, c = ')' ∨ ∃ o : Operator, c = o.symbol

theorem opensPiece_nil :
  OpensPiece []
  := by
  intro c hc
  cases hc

theorem closesPiece_nil :
  ClosesPiece []
  := by
  intro c hc
  cases hc

/-- A piece can start behind an operator or an opening parenthesis, and where it can start behind
what follows them. -/
theorem OpensPiece.append_cons {c : Char} (h : OpensPiece before)
    (hc : c = '(' ∨ ∃ o : Operator, c = o.symbol) (s : Text) :
  OpensPiece (s ++ c :: before)
  := by
  intro d hd
  cases before with
  | nil =>
    rw [List.getLast?_concat, Option.mem_some_iff] at hd
    rw [← hd]
    apply hc
  | cons e before =>
    rw [List.getLast?_append_of_ne_nil s (List.cons_ne_nil _ _), List.getLast?_cons_cons] at hd
    apply h d hd

/-- A piece can stop in front of an operator or a closing parenthesis, and where it can stop in
front of what precedes them. -/
theorem ClosesPiece.append_cons {c : Char} (h : ClosesPiece after)
    (hc : c = ')' ∨ ∃ o : Operator, c = o.symbol) (s : Text) :
  ClosesPiece (after ++ c :: s)
  := by
  intro d hd
  cases after with
  | nil =>
    rw [List.nil_append, List.head?_cons, Option.mem_some_iff] at hd
    rw [← hd]
    apply hc
  | cons e after => apply h d hd

/-! ### What stands in front of a piece -/

/-- A reduction passes opening parentheses, and operands that reduce to numbers together with the
operator behind them. -/
inductive IsPassed : Text → Prop where
  | nil : IsPassed []
  | leftParen {before : Text} : IsPassed before → IsPassed ('(' :: before)
  | operand {left before : Text} {v : Number} (o : Operator) :
    reduceFreely left = .ok v → IsPassed before → IsPassed (left ++ o.symbol :: before)

/-- A piece can start behind what a reduction has passed. -/
theorem IsPassed.opensPiece (h : IsPassed before) :
  OpensPiece before
  := by
  induction h with
  | nil => apply opensPiece_nil
  | leftParen _ ih => apply ih.append_cons (.inl rfl) []
  | operand o _ _ ih => apply ih.append_cons (.inr ⟨o, rfl⟩)

/-- A character is arithmetic if it is numeric, a parenthesis or the symbol of an operator. -/
def IsArithmetic (c : Char) : Prop :=
  Number.isNumeric c ∨ c ∈ ['(', ')', '+', '-', '*', '/']

theorem isArithmetic_symbol (o : Operator) :
  IsArithmetic o.symbol
  := by
  right
  cases o <;> decide

theorem isArithmetic_leftParen :
  IsArithmetic '('
  := .inr List.mem_cons_self

/-- A text that reduces to a number consists of arithmetic characters. -/
theorem isArithmetic_of_reduceFreely {v : Number} (h : reduceFreely s = .ok v) :
  ∀ c ∈ s, IsArithmetic c
  := by
  induction s using Text.pieceInduction generalizing v with
  | split s x hsplit ihleft ihright =>
    rw [reduceFreely_of_topSplit? hsplit] at h
    obtain ⟨l, hleft, h⟩ := bind_eq_ok_iff.mp h
    obtain ⟨r, hright, -⟩ := bind_eq_ok_iff.mp h
    rw [← text_of_split? (split?_of_topSplit? hsplit).1, Split.text, List.forall_mem_append,
      List.forall_mem_cons]
    use ihleft hleft, isArithmetic_symbol _, ihright hright
  | enclosed s inner hsplit hinner ih =>
    rw [reduceFreely_of_enclosed? hsplit hinner] at h
    rw [eq_parenthesized_of_enclosed? hinner, List.forall_mem_append, List.forall_mem_cons,
      List.forall_mem_singleton]
    use ⟨isArithmetic_leftParen, ih h⟩
    right
    decide
  | literal s hsplit hinner =>
    rw [reduceFreely_of_literal hsplit hinner] at h
    intro c hc
    left
    apply (isLiteral_of_literal h).1 c hc

/-- What a reduction has passed consists of arithmetic characters. -/
theorem IsPassed.isArithmetic (h : IsPassed before) :
  ∀ c ∈ before, IsArithmetic c
  := by
  induction h with
  | nil => apply List.forall_mem_nil
  | leftParen _ ih =>
    rw [List.forall_mem_cons]
    use isArithmetic_leftParen
  | operand o hleft _ ih =>
    rw [List.forall_mem_append, List.forall_mem_cons]
    use isArithmetic_of_reduceFreely hleft, isArithmetic_symbol o

/-! ### The piece -/

/-- What is no number is reported as it is. -/
theorem eq_of_literal_eq_error {e : ReductionError} (h : literal s = .error e) :
  e = .malformed s
  := by
  rw [literal] at h
  split at h
  · cases h
  · apply (Except.error.inj h).symm

/-- A malformed piece is malformed by itself and the first of the text. -/
theorem exists_of_reduceFreely (h : reduceFreely s = .error (.malformed piece)) :
  reduce piece = .error (.malformed piece)
    ∧ ∃ before after, s = before ++ piece ++ after ∧ IsPassed before ∧ ClosesPiece after
  := by
  induction s using Text.pieceInduction with
  | split s x hsplit ihleft ihright =>
    have hs := text_of_split? (split?_of_topSplit? hsplit).1
    rw [Split.text] at hs
    rw [reduceFreely_of_topSplit? hsplit] at h
    rcases bind_eq_error_iff.mp h with h | ⟨l, hleft, h⟩
    · obtain ⟨hpiece, before, after, hleft, hbefore, hafter⟩ := ihleft h
      use hpiece, before, after ++ x.operator.symbol :: x.right
      refine ⟨?_, hbefore, hafter.append_cons (.inr ⟨_, rfl⟩) x.right⟩
      rw [← hs, hleft, List.append_assoc]
    · rcases bind_eq_error_iff.mp h with h | ⟨r, -, h⟩
      · obtain ⟨hpiece, before, after, hright, hbefore, hafter⟩ := ihright h
        use hpiece, x.left ++ x.operator.symbol :: before, after
        refine ⟨?_, .operand _ hleft hbefore, hafter⟩
        rw [← hs, hright]
        simp
      · cases Operator.eq_divisionByZero_of_apply h
  | enclosed s inner hsplit hinner ih =>
    rw [reduceFreely_of_enclosed? hsplit hinner] at h
    obtain ⟨hpiece, before, after, rfl, hbefore, hafter⟩ := ih h
    use hpiece, '(' :: before, after ++ [')']
    refine ⟨?_, .leftParen hbefore, hafter.append_cons (.inl rfl) []⟩
    rw [eq_parenthesized_of_enclosed? hinner]
    simp
  | literal s hsplit hinner =>
    rw [reduceFreely_of_literal hsplit hinner] at h
    obtain rfl := ReductionError.malformed.inj (eq_of_literal_eq_error h)
    constructor
    · apply Eq.trans (reduceWithin_of_literal hsplit hinner) h
    · use [], []
      refine ⟨?_, .nil, closesPiece_nil⟩
      simp

/-- A bound on the levels makes no piece malformed. -/
theorem reduceFreely_of_reduce (h : reduce s = .error (.malformed piece)) :
  reduceFreely s = .error (.malformed piece)
  := by
  rw [reduce, reduceAt_eq] at h
  split at h
  · apply h
  · cases h

/-- The piece that a reduction reports as malformed is the first of the text that does not reduce.
Only parentheses that are opened and operands that reduce, which consist of arithmetic characters,
are in front of it, and it stands between operators and parentheses or at an end of the text. By
itself it is malformed again. -/
theorem exists_piece_of_reduce (h : reduce s = .error (.malformed piece)) :
  reduce piece = .error (.malformed piece)
    ∧ ∃ before after, s = before ++ piece ++ after ∧ IsPassed before
      ∧ (∀ c ∈ before, IsArithmetic c) ∧ OpensPiece before ∧ ClosesPiece after
  := by
  obtain ⟨hpiece, before, after, hs, hbefore, hafter⟩ :=
    exists_of_reduceFreely (reduceFreely_of_reduce h)
  use hpiece, before, after, hs, hbefore, hbefore.isArithmetic, hbefore.opensPiece

/-- The text `(1+2)*)(-x` is split at the minus sign, and then at the multiplication, the left side
of which is passed. The piece `)(` is not enclosed in parentheses. -/
theorem exists_piece_of_reduce_parentheses :
  reduce ['(', '1', '+', '2', ')', '*', ')', '(', '-', 'x'] = .error (.malformed [')', '('])
    ∧ reduce [')', '('] = .error (.malformed [')', '('])
    ∧ ∃ before after, ['(', '1', '+', '2', ')', '*', ')', '(', '-', 'x']
        = before ++ [')', '('] ++ after ∧ IsPassed before
      ∧ (∀ c ∈ before, IsArithmetic c) ∧ OpensPiece before ∧ ClosesPiece after
  := by
  have h : reduce ['(', '1', '+', '2', ')', '*', ')', '(', '-', 'x']
      = .error (.malformed [')', '(']) := by decide +kernel
  use h
  apply exists_piece_of_reduce h

/-! ### Names -/

/-- No name reaches across the start of a piece. -/
theorem OpensPiece.nameRuns_append (h : OpensPiece before) (s : Text) :
  nameRuns (before ++ s) = nameRuns before ++ nameRuns s
  := by
  rcases List.eq_nil_or_concat' before with rfl | ⟨init, c, rfl⟩
  · rfl
  · have hc : isLetter c = false := by
      rcases h c (by simp) with rfl | ⟨o, rfl⟩
      · apply isLetter_leftParen
      · apply isLetter_symbol
    rw [List.append_assoc, List.singleton_append, nameRuns_append_cons hc,
      nameRuns_append_cons hc]
    simp [nameRuns, tokens, lexemes, lexemesFrom]

theorem ClosesPiece.nameRuns_append (h : ClosesPiece after) (s : Text) :
  nameRuns (s ++ after) = nameRuns s ++ nameRuns after
  := by
  cases after with
  | nil => rw [List.append_nil, nameRuns_eq_nil_iff.mpr (List.forall_mem_nil _), List.append_nil]
  | cons c after =>
    have hc : isLetter c = false := by
      rcases h c rfl with rfl | ⟨o, rfl⟩
      · apply isLetter_rightParen
      · apply isLetter_symbol
    rw [nameRuns_append_cons hc, nameRuns_cons hc]

/-- The names of a malformed piece are names of the text. -/
theorem mem_nameRuns_of_reduce {name : Text} (h : reduce s = .error (.malformed piece))
    (hname : name ∈ nameRuns piece) :
  name ∈ nameRuns s
  := by
  obtain ⟨-, before, after, rfl, hbefore, hafter⟩ :=
    exists_of_reduceFreely (reduceFreely_of_reduce h)
  rw [hafter.nameRuns_append, hbefore.opensPiece.nameRuns_append]
  apply List.mem_append_left _ (List.mem_append_right _ hname)

end Reckoner
