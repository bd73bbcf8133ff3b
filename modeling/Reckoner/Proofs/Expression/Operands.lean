import Reckoner.Proofs.Expression.Grammar
import Reckoner.Proofs.Expression.Validity

/-!
# Operators follow operands

In the spelling of a grammatical tree each symbol of an operator comes right behind the end of an
operand. Two symbols are therefore never next to each other, so that every spelling is valid, and
none is at the start or behind an opening parenthesis.
-/

namespace Reckoner

/-- A text ends with an operand if its last character is neither the symbol of an operator nor an
opening parenthesis. -/
def EndsWithOperand (s : Text) : Prop :=
  ∃ init c, s = init ++ [c] ∧ c ≠ '(' ∧ ∀ o : Operator, c ≠ o.symbol

theorem EndsWithOperand.append {s : Text} (h : EndsWithOperand s) (t : Text) :
  EndsWithOperand (t ++ s)
  := by
  obtain ⟨init, c, rfl, hparen, hsymbol⟩ := h
  exact ⟨t ++ init, c, (List.append_assoc _ _ _).symm, hparen, hsymbol⟩

/-- A text that is not empty ends with an operand if all its characters could. -/
theorem endsWithOperand_of_forall {s : Text} (hne : s ≠ [])
    (h : ∀ c ∈ s, c ≠ '(' ∧ ∀ o : Operator, c ≠ o.symbol) :
  EndsWithOperand s
  := by
  refine ⟨s.dropLast, s.getLast hne, (List.dropLast_concat_getLast hne).symm, ?_⟩
  apply h _ (List.getLast_mem hne)

theorem not_endsWithOperand_nil :
  ¬EndsWithOperand []
  := by
  rintro ⟨init, c, h, -⟩
  cases List.append_ne_nil_of_right_ne_nil init (List.cons_ne_nil c []) h.symm

theorem symbol_ne_paren (o : Operator) :
  o.symbol ≠ '(' ∧ o.symbol ≠ ')'
  := by
  cases o <;> decide

/-- Two ways to cut the same text at a character. -/
theorem append_cons_eq_append_cons {s t s' t' : Text} {a b : Char}
    (h : s ++ a :: t = s' ++ b :: t') :
  (s = s' ∧ a = b ∧ t = t') ∨ (∃ u, s = s' ++ b :: u ∧ t' = u ++ a :: t)
    ∨ ∃ u, s' = s ++ a :: u ∧ t = u ++ b :: t'
  := by
  rcases List.append_eq_append_iff.mp h with ⟨u, rfl, hu⟩ | ⟨u, rfl, hu⟩
  · rcases List.cons_eq_append_iff.mp hu with ⟨rfl, hcons⟩ | ⟨u', rfl, rfl⟩
    · obtain ⟨rfl, rfl⟩ := List.cons.inj hcons
      simp
    · right
      right
      use u'
  · rcases List.cons_eq_append_iff.mp hu with ⟨rfl, hcons⟩ | ⟨u', rfl, rfl⟩
    · obtain ⟨rfl, rfl⟩ := List.cons.inj hcons
      simp
    · right
      left
      use u'

/-- What a text ends with behind the symbol of an operator or an opening parenthesis does not depend
on what is in front of it. -/
theorem EndsWithOperand.of_append_cons {s t : Text} {c : Char}
    (hc : c = '(' ∨ ∃ o : Operator, c = o.symbol) (h : EndsWithOperand (s ++ c :: t)) :
  EndsWithOperand t
  := by
  obtain ⟨init, d, heq, hparen, hsymbol⟩ := h
  rcases append_cons_eq_append_cons heq with ⟨-, rfl, -⟩ | ⟨u, -, hnil⟩ | ⟨u, -, rfl⟩
  · rcases hc with rfl | ⟨o, rfl⟩
    · cases hparen rfl
    · cases hsymbol o rfl
  · cases List.append_ne_nil_of_right_ne_nil u (List.cons_ne_nil c t) hnil.symm
  · exact ⟨u, d, rfl, hparen, hsymbol⟩

namespace Tree

variable {t : Tree}

/-- The spelling of a grammatical tree ends with an operand. -/
theorem IsGrammatical.endsWithOperand (ht : t.IsGrammatical) :
  EndsWithOperand t.spelling
  := by
  induction t with
  | number text =>
    have hliteral : IsLiteral text := ht
    obtain ⟨d, hd, -⟩ := hliteral.2.1
    apply endsWithOperand_of_forall (List.ne_nil_of_mem hd)
    intro c hc
    constructor
    · rintro rfl
      apply hliteral.not_mem rfl hc
    · rintro o rfl
      apply hliteral.not_mem (isNumeric_symbol o) hc
  | name text =>
    have hname : IsName text := ht
    apply endsWithOperand_of_forall hname.1
    intro c hc
    constructor
    · rintro rfl
      apply hname.not_mem isLetter_leftParen hc
    · rintro o rfl
      apply hname.not_mem (isLetter_symbol o) hc
  | parenthesized inner =>
    refine ⟨'(' :: inner.spelling, ')', rfl, by decide, ?_⟩
    intro o
    cases o <;> decide
  | binary o left right ihleft ihright =>
    rw [spelling, List.append_cons]
    apply (ihright ht.2.1).append

/-- What precedes an operator in the spelling of a grammatical tree ends with an operand. -/
theorem IsGrammatical.endsWithOperand_of_eq (ht : t.IsGrammatical) {left right : Text}
    {o : Operator} (h : t.spelling = left ++ o.symbol :: right) :
  EndsWithOperand left
  := by
  induction t generalizing left right with
  | number text =>
    rw [spelling] at h
    subst h
    apply (IsLiteral.not_mem ht (isNumeric_symbol o) (List.mem_append_right _ _)).elim
    apply List.mem_cons_self
  | name text =>
    rw [spelling] at h
    subst h
    apply (IsName.not_mem ht (isLetter_symbol o) (List.mem_append_right _ _)).elim
    apply List.mem_cons_self
  | parenthesized inner ih =>
    rw [spelling, List.cons_append] at h
    -- The operator is none of the two parentheses, so that it is between them.
    rcases List.cons_eq_append_iff.mp h with ⟨rfl, hcons⟩ | ⟨left', rfl, hleft'⟩
    · cases (symbol_ne_paren o).1 (List.cons.inj hcons).1
    · rcases append_cons_eq_append_cons hleft' with ⟨-, ho, -⟩ | ⟨u, hinner, -⟩ | ⟨u, -, hnil⟩
      · cases (symbol_ne_paren o).2 ho.symm
      · apply EndsWithOperand.append _ ['(']
        apply ih ht hinner
      · cases List.append_ne_nil_of_right_ne_nil u (List.cons_ne_nil _ _) hnil.symm
  | binary o' l r ihl ihr =>
    rw [spelling] at h
    -- The operator is the one on top, or it is in one of the operands.
    rcases append_cons_eq_append_cons h with ⟨rfl, -, -⟩ | ⟨u, hl, -⟩ | ⟨u, rfl, hr⟩
    · apply IsGrammatical.endsWithOperand ht.1
    · apply ihl ht.1 hl
    · rw [List.append_cons]
      apply EndsWithOperand.append
      apply ihr ht.2.1 hr

/-- The symbols in the spelling of a grammatical tree are apart. -/
theorem IsGrammatical.symbolsApart (ht : t.IsGrammatical) :
  SymbolsApart t.spelling
  := by
  intro left o o' right h
  rw [List.append_cons] at h
  apply not_endsWithOperand_nil
  apply (ht.endsWithOperand_of_eq h).of_append_cons (.inr ⟨o, rfl⟩)

end Tree

end Reckoner
