import Mathlib.Data.List.Chain
import Reckoner.Expression.Validity
import Reckoner.Proofs.Expression.Balance
import Reckoner.Proofs.Expression.Tokens

/-!
# Validity without tokens

The check of an expression reads tokens, but it could as well read the characters that are not
blank: `isValid_iff` says that an expression is valid if and only if these are balanced and no two
symbols of operators are next to each other among them. Both can be told from the characters alone,
so that blank characters do not count although they can divide a token (`isValid_characters`).
-/

namespace Reckoner

/-! ### Stripping -/

theorem strip_cons_of_isBlank {c : Char} (h : isBlank c) (s : Text) :
  Text.strip (c :: s) = s.strip
  := by
  simp [Text.strip, h]

theorem strip_cons {c : Char} (h : isBlank c = false) (s : Text) :
  Text.strip (c :: s) = c :: s.strip
  := by
  simp [Text.strip, h]

/-! ### Parentheses -/

/-- A text closes what is open in front of it, and no more, in the course of it. -/
def Closes (depth : Int) (s : Text) : Prop :=
  (∀ start, start <+: s → 0 ≤ depth + unclosed start) ∧ depth + unclosed s = 0

/-- A text closes what is open where nothing is open if and only if it is balanced. -/
theorem closes_zero_iff {s : Text} :
  Closes 0 s ↔ Balanced s
  := by
  simp only [Closes, Balanced, Int.zero_add]

theorem closes_nil_iff {depth : Int} :
  Closes depth [] ↔ depth = 0
  := by
  constructor
  · intro h
    have hwhole := h.2
    rw [unclosed_nil, Int.add_zero] at hwhole
    apply hwhole
  · rintro rfl
    constructor
    · intro start hstart
      rw [List.prefix_nil.mp hstart]
      apply Int.le_refl
    · rfl

/-- A text closes what is open if this is not less than nothing and its tail closes what is open
behind the first character. -/
theorem closes_cons_iff {depth : Int} {c : Char} {s : Text} :
  Closes depth (c :: s) ↔ 0 ≤ depth ∧ Closes (depth + opens c) s
  := by
  constructor
  · intro h
    have hempty := h.1 [] List.nil_prefix
    rw [unclosed_nil, Int.add_zero] at hempty
    refine ⟨hempty, ?_, ?_⟩
    · intro start hstart
      have hcons := h.1 (c :: start) (List.cons_prefix_cons.mpr ⟨rfl, hstart⟩)
      rw [unclosed_cons, ← Int.add_assoc] at hcons
      apply hcons
    · rw [Int.add_assoc, ← unclosed_cons]
      apply h.2
  · rintro ⟨hdepth, hstarts, hwhole⟩
    constructor
    · intro start hstart
      rcases List.prefix_cons_iff.mp hstart with rfl | ⟨start', rfl, hstart'⟩
      · rw [unclosed_nil, Int.add_zero]
        apply hdepth
      · rw [unclosed_cons, ← Int.add_assoc]
        apply hstarts start' hstart'
    · rw [unclosed_cons, ← Int.add_assoc]
      apply hwhole

/-- Blank characters do not count for what a text closes. -/
theorem closes_strip_iff {depth : Int} {s : Text} :
  Closes depth s.strip ↔ Closes depth s
  := by
  induction s generalizing depth with
  | nil => rw [Text.strip_nil]
  | cons c s ih =>
    by_cases hblank : isBlank c
    · rw [strip_cons_of_isBlank hblank, closes_cons_iff, opens_of_isBlank hblank, Int.add_zero, ih]
      constructor
      · intro h
        have hempty := h.1 [] List.nil_prefix
        rw [unclosed_nil, Int.add_zero] at hempty
        exact ⟨hempty, h⟩
      · intro h
        apply h.2
    · rw [Bool.not_eq_true] at hblank
      rw [strip_cons hblank, closes_cons_iff, closes_cons_iff, ih]

/-- Tokens other than parentheses do not count for the parentheses. -/
theorem parenthesesMatch_cons {t : Token} (hleft : t ≠ .leftParen) (hright : t ≠ .rightParen)
    (depth : Nat) (ts : List Token) :
  parenthesesMatch depth (t :: ts) = parenthesesMatch depth ts
  := by
  cases t with
  | leftParen => cases hleft rfl
  | rightParen => cases hright rfl
  | number text => rfl
  | name text => rfl
  | operator o => rfl
  | other c => rfl

/-- Parentheses are not joined with other tokens, nor do other tokens become parentheses. -/
theorem Token.ne_paren_of_append? {a b joined : Token} (h : a.append? b = some joined) :
  (b ≠ .leftParen ∧ b ≠ .rightParen) ∧ joined ≠ .leftParen ∧ joined ≠ .rightParen
  := by
  rcases append?_eq_some_iff.mp h with ⟨s, t, -, rfl, rfl⟩ | ⟨s, t, -, rfl, rfl⟩
  · simp
  · simp

/-- A character other than a parenthesis does not count, whether it is a token or part of one. -/
theorem parenthesesMatch_tokens_cons {c : Char} (hblank : isBlank c = false) (hleft : c ≠ '(')
    (hright : c ≠ ')') (depth : Nat) (s : Text) :
  parenthesesMatch depth (tokens (c :: s)) = parenthesesMatch depth (tokens s)
  := by
  rcases tokens_cons hblank s with htokens | ⟨first, rest, joined, hs, hjoined, htokens⟩
  · rw [htokens, parenthesesMatch_cons]
    · intro hc
      have hspelling := Token.spelling_ofChar c
      rw [hc] at hspelling
      apply hleft (List.singleton_inj.mp hspelling).symm
    · intro hc
      have hspelling := Token.spelling_ofChar c
      rw [hc] at hspelling
      apply hright (List.singleton_inj.mp hspelling).symm
  · obtain ⟨hfirst, hjoined'⟩ := Token.ne_paren_of_append? hjoined
    rw [htokens, hs, parenthesesMatch_cons hfirst.1 hfirst.2,
      parenthesesMatch_cons hjoined'.1 hjoined'.2]

/-- The parentheses among the tokens match if and only if those of the stripped text do. -/
theorem parenthesesMatch_tokens_iff {depth : Nat} {s : Text} :
  parenthesesMatch depth (tokens s) ↔ Closes depth s.strip
  := by
  induction s generalizing depth with
  | nil =>
    rw [Text.strip_nil, closes_nil_iff, Int.natCast_eq_zero]
    apply beq_iff_eq
  | cons c s ih =>
    by_cases hblank : isBlank c
    · rw [tokens_cons_of_isBlank hblank, strip_cons_of_isBlank hblank]
      apply ih
    · rw [Bool.not_eq_true] at hblank
      rw [strip_cons hblank, closes_cons_iff]
      -- Only a parenthesis changes the depth. Other characters may be joined with what follows.
      by_cases hleft : c = '('
      · subst hleft
        rw [tokens_leftParen, parenthesesMatch, ih]
        simp [opens]
      · by_cases hright : c = ')'
        · subst hright
          rw [tokens_rightParen]
          cases depth with
          | zero =>
            simp only [parenthesesMatch, Bool.false_eq_true, false_iff, not_and]
            intro _ hcloses
            have hempty := hcloses.1 [] List.nil_prefix
            revert hempty
            decide
          | succ depth =>
            have hdepth : ((depth + 1 : Nat) : Int) + opens ')' = depth := by
              rw [show opens ')' = -1 from rfl]
              omega
            rw [parenthesesMatch, ih, hdepth, iff_and_self]
            intro _
            apply Int.natCast_nonneg
        · rw [parenthesesMatch_tokens_cons hblank hleft hright, opens_eq_zero hleft hright, ih,
            Int.add_zero]
          simp

/-! ### Operators -/

/-- No two symbols of operators are next to each other. -/
def SymbolsApart (s : Text) : Prop :=
  ∀ left (o o' : Operator) right, s ≠ left ++ o.symbol :: o'.symbol :: right

theorem symbolsApart_nil :
  SymbolsApart []
  := by
  intro left o o' right h
  cases List.append_ne_nil_of_right_ne_nil left (List.cons_ne_nil _ _) h.symm

/-- No two symbols are next to each other in a text if this holds for its tail and for its first two
characters. -/
theorem symbolsApart_cons_iff {c : Char} {s : Text} :
  SymbolsApart (c :: s)
    ↔ (∀ o o' : Operator, c = o.symbol → s.head? ≠ some o'.symbol) ∧ SymbolsApart s
  := by
  constructor
  · intro h
    constructor
    · rintro o o' rfl hhead
      obtain ⟨rest, rfl⟩ := List.head?_eq_some_iff.mp hhead
      apply h [] o o' rest rfl
    · rintro left o o' right rfl
      apply h (c :: left) o o' right rfl
  · rintro ⟨hhead, hs⟩ left o o' right heq
    rcases List.cons_eq_append_iff.mp heq with ⟨rfl, hcons⟩ | ⟨left', rfl, hs'⟩
    · obtain ⟨rfl, rfl⟩ := List.cons.inj hcons
      apply hhead o o' rfl rfl
    · apply hs left' o o' right hs'

/-- A token that is no operator does not count for the operators. -/
theorem operatorsApart_cons {t : Token} (h : t.isOperator = false) (ts : List Token) :
  operatorsApart (t :: ts) = operatorsApart ts
  := by
  cases ts with
  | nil => rfl
  | cons b rest => rw [operatorsApart, h, Bool.false_and, Bool.not_false, Bool.true_and]

/-- An operator is apart from the others if no operator follows it. -/
theorem operatorsApart_operator_iff {o : Operator} {ts : List Token} :
  operatorsApart (.operator o :: ts)
    ↔ (∀ o' : Operator, ts.head? ≠ some (.operator o')) ∧ operatorsApart ts
  := by
  cases ts with
  | nil => simp [operatorsApart]
  | cons b rest =>
    rw [operatorsApart, Bool.and_eq_true]
    apply and_congr_left
    intro _
    cases b <;> simp [Token.isOperator, Token.operator?]

theorem Token.ofChar_eq_operator_iff {c : Char} {o : Operator} :
  ofChar c = operator o ↔ c = o.symbol
  := by
  constructor
  · intro h
    have hspelling := spelling_ofChar c
    rw [h] at hspelling
    apply (List.singleton_inj.mp hspelling).symm
  · rintro rfl
    apply ofChar_symbol

theorem Token.isOperator_eq_false_iff {t : Token} :
  t.isOperator = false ↔ ∀ o, t ≠ .operator o
  := by
  cases t <;> simp [isOperator, operator?]

/-- Operators are not joined with other tokens, nor do other tokens become operators. -/
theorem Token.isOperator_of_append? {a b joined : Token} (h : a.append? b = some joined) :
  b.isOperator = false ∧ joined.isOperator = false
  := by
  rcases append?_eq_some_iff.mp h with ⟨s, t, -, rfl, rfl⟩ | ⟨s, t, -, rfl, rfl⟩
  · exact ⟨rfl, rfl⟩
  · exact ⟨rfl, rfl⟩

/-- The first token is an operator if and only if the first character is one that is not blank. -/
theorem head?_tokens_eq_operator_iff {s : Text} {o : Operator} :
  (tokens s).head? = some (.operator o) ↔ s.strip.head? = some o.symbol
  := by
  induction s with
  | nil => simp [tokens, lexemes, lexemesFrom]
  | cons c s ih =>
    by_cases hblank : isBlank c
    · rw [tokens_cons_of_isBlank hblank, strip_cons_of_isBlank hblank]
      apply ih
    · rw [Bool.not_eq_true] at hblank
      rw [strip_cons hblank, List.head?_cons, Option.some_inj]
      rcases tokens_cons hblank s with htokens | ⟨first, rest, joined, -, hjoined, htokens⟩
      · rw [htokens, List.head?_cons, Option.some_inj]
        apply Token.ofChar_eq_operator_iff
      · rw [htokens, List.head?_cons, Option.some_inj]
        constructor
        · rintro rfl
          cases (Token.isOperator_of_append? hjoined).2
        · rintro rfl
          rw [Token.ofChar_symbol] at hjoined
          cases hjoined

/-- No two operators follow each other among the tokens if and only if none of their symbols do in
the stripped text. -/
theorem operatorsApart_tokens_iff {s : Text} :
  operatorsApart (tokens s) ↔ SymbolsApart s.strip
  := by
  induction s with
  | nil =>
    rw [Text.strip_nil, iff_true_right symbolsApart_nil]
    rfl
  | cons c s ih =>
    by_cases hblank : isBlank c
    · rw [tokens_cons_of_isBlank hblank, strip_cons_of_isBlank hblank]
      apply ih
    · rw [Bool.not_eq_true] at hblank
      rw [strip_cons hblank, symbolsApart_cons_iff, ← ih]
      by_cases hsymbol : ∃ o : Operator, c = o.symbol
      · obtain ⟨o, rfl⟩ := hsymbol
        rw [tokens_symbol, operatorsApart_operator_iff]
        apply and_congr_left
        intro _
        simp only [ne_eq, head?_tokens_eq_operator_iff]
        constructor
        · intro h _ o' _
          apply h o'
        · intro h o'
          apply h o o' rfl
      · have hc : ∀ o o' : Operator, c = o.symbol → (Text.strip s).head? ≠ some o'.symbol :=
          fun o _ ho => (hsymbol ⟨o, ho⟩).elim
        rw [and_iff_right hc]
        rcases tokens_cons hblank s with htokens | ⟨first, rest, joined, hs, hjoined, htokens⟩
        · rw [htokens, operatorsApart_cons]
          rw [Token.isOperator_eq_false_iff]
          intro o ho
          apply hsymbol ⟨o, Token.ofChar_eq_operator_iff.mp ho⟩
        · obtain ⟨hfirst, hjoined'⟩ := Token.isOperator_of_append? hjoined
          rw [htokens, hs, operatorsApart_cons hjoined', operatorsApart_cons hfirst]

/-! ### Validity -/

/-- An expression is valid if and only if the characters in it that are not blank are balanced and
have no two symbols of operators next to each other. -/
theorem isValid_iff {s : Text} :
  isValid s ↔ Balanced s.strip ∧ SymbolsApart s.strip
  := by
  rw [isValid, Bool.and_eq_true, parenthesesMatch_tokens_iff, operatorsApart_tokens_iff,
    Int.natCast_zero, closes_zero_iff]

/-- Blank characters do not count for the validity of an expression. -/
theorem isValid_strip (s : Text) :
  isValid s.strip = isValid s
  := by
  rw [Bool.eq_iff_iff, isValid_iff, isValid_iff, Text.strip_strip]

/-! ### Characters -/

/-- No two symbols are next to each other if and only if of each two neighbouring characters one is
no symbol. -/
theorem symbolsApart_iff_isChain {s : Text} :
  SymbolsApart s
    ↔ s.IsChain fun a b => ¬(a ∈ ['+', '-', '*', '/'] ∧ b ∈ ['+', '-', '*', '/'])
  := by
  rw [List.isChain_iff_forall_rel_of_append_cons_cons]
  simp only [← exists_eq_symbol_iff]
  constructor
  · rintro h a b left right hs ⟨⟨o, rfl⟩, o', rfl⟩
    apply h left o o' right hs
  · intro h left o o' right hs
    apply h hs ⟨⟨o, rfl⟩, o', rfl⟩

/-- An expression is valid if and only if among its characters that are not blank no beginning has
more closing than opening parentheses, the whole has as many of the ones as of the others, and no
two symbols of operators follow each other. The expression without its blank characters is therefore
valid if and only if the whole is, although its tokens can be different ones. -/
theorem isValid_characters (s : Text) :
  (isValid s
      ↔ (∀ start, start <+: s.strip → start.count ')' ≤ start.count '(')
        ∧ s.strip.count '(' = s.strip.count ')'
        ∧ s.strip.IsChain fun a b => ¬(a ∈ ['+', '-', '*', '/'] ∧ b ∈ ['+', '-', '*', '/']))
    ∧ isValid s = isValid s.strip
    ∧ ∃ t : Text, tokens t ≠ tokens t.strip
  := by
  refine ⟨?_, (isValid_strip s).symm, ['1', ' ', '2', '+', 'a', ' ', 'b'], by decide +kernel⟩
  rw [isValid_iff, balanced_iff_count, symbolsApart_iff_isChain, and_assoc]

end Reckoner
