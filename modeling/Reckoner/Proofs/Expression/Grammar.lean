import Reckoner.Proofs.Expression.Split
import Reckoner.Proofs.Number.Literal

/-!
# The grammar of expressions
-/

namespace Reckoner

/-! ### Literals and names -/

/-- What has the form of a number has a value. -/
theorem IsLiteral.exists_literal {s : Text} (h : IsLiteral s) :
  ∃ v, literal s = .ok v
  := by
  obtain ⟨v, hv⟩ := Option.isSome_iff_exists.mp (isSome_ofLiteral?_iff.mpr h)
  use v
  rw [literal, hv]

/-- What has a value as a number has the form of one. -/
theorem isLiteral_of_literal {s : Text} {v : Number} (h : literal s = .ok v) :
  IsLiteral s
  := by
  rw [← isSome_ofLiteral?_iff]
  unfold literal at h
  split at h
  · rename_i w hw
    rw [hw]
    rfl
  · cases h

theorem IsLiteral.not_isName {s : Text} (h : IsLiteral s) :
  ¬IsName s
  := by
  obtain ⟨c, hc, hdigit⟩ := h.2.1
  intro hname
  apply hname.not_mem (isLetter_of_isNumeric (isNumeric_of_isDigit hdigit)) hc

/-- A text without symbols of operators is not split. -/
theorem split?_eq_none_of_ofChar? {p : Precedence} {s : Text}
    (h : ∀ c ∈ s, Operator.ofChar? c = none) :
  split? p s = none
  := by
  rw [split?_eq_none_iff]
  rintro left o right rfl
  have ho := h o.symbol (List.mem_append_right _ List.mem_cons_self)
  rw [Operator.ofChar?_symbol] at ho
  cases ho

/-- An operator of another precedence hides none of the splits on its two sides. -/
theorem split?_append_symbol_eq_none_iff {p : Precedence} {o : Operator} {left right : Text}
    (ho : o.precedence ≠ p) (hdepth : unclosed right = 0) :
  split? p (left ++ o.symbol :: right) = none ↔ split? p left = none ∧ split? p right = none
  := by
  have hbehind : unclosed (o.symbol :: right) = 0 := by
    rw [unclosed_cons, opens_symbol, hdepth]
    rfl
  have hsymbol : split? p (o.symbol :: right) = none ↔ split? p right = none := by
    rw [split?_cons_eq_none_iff, and_iff_left_iff_imp]
    intro _ o' ho' hp
    rw [Operator.ofChar?_symbol] at ho'
    obtain rfl := Option.some.inj ho'
    apply (ho hp).elim
  rw [split?_append_eq_none_iff hbehind, hsymbol]

theorem topSplit?_eq_none_iff {s : Text} :
  topSplit? s = none ↔ split? .additive s = none ∧ split? .multiplicative s = none
  := by
  rw [topSplit?]
  cases split? .additive s with
  | none => simp
  | some x => simp

/-- The top split is one at the last operator of its precedence, and a multiplicative one is taken
only if there is no additive one. -/
theorem split?_of_topSplit? {s : Text} {x : Split} (h : topSplit? s = some x) :
  split? x.operator.precedence s = some x
    ∧ (x.operator.precedence = .multiplicative → split? .additive s = none)
  := by
  rw [topSplit?] at h
  cases hadditive : split? .additive s with
  | some y =>
    rw [hadditive] at h
    obtain rfl := Option.some.inj h
    have hy := (right_of_split? hadditive).1
    rw [hy]
    use hadditive
    intro hmultiplicative
    cases hmultiplicative
  | none =>
    rw [hadditive] at h
    have hx : split? .multiplicative s = some x := h
    rw [(right_of_split? hx).1]
    use hx
    intro _
    rfl

/-- A text splits at an additive operator behind which parentheses match and no other one is outside
of them. -/
theorem topSplit?_of_additive {o : Operator} (left : Text) {right : Text}
    (ho : o.precedence = .additive) (hdepth : unclosed right = 0)
    (hright : split? .additive right = none) :
  topSplit? (left ++ o.symbol :: right) = some ⟨left, o, right⟩
  := by
  rw [topSplit?, split?_append_cons left ho hdepth hright]
  rfl

/-- A text splits at a multiplicative operator if, besides, no additive one is in front of it. -/
theorem topSplit?_of_multiplicative {o : Operator} {left right : Text}
    (ho : o.precedence = .multiplicative) (hleft : split? .additive left = none)
    (hdepth : unclosed right = 0) (hright : topSplit? right = none) :
  topSplit? (left ++ o.symbol :: right) = some ⟨left, o, right⟩
  := by
  obtain ⟨hadditive, hmultiplicative⟩ := topSplit?_eq_none_iff.mp hright
  have hnone : split? .additive (left ++ o.symbol :: right) = none := by
    rw [split?_append_symbol_eq_none_iff (by simp [ho]) hdepth]
    use hleft
  rw [topSplit?, hnone]
  apply split?_append_cons left ho hdepth hmultiplicative

/-! ### Parentheses -/

/-- What is put into parentheses is enclosed by them. -/
theorem enclosed?_parenthesized (s : Text) :
  enclosed? ('(' :: s ++ [')']) = some s
  := by
  simp [enclosed?]

/-- A number is not enclosed in parentheses. -/
theorem enclosed?_of_isLiteral {s : Text} (h : IsLiteral s) :
  enclosed? s = none
  := by
  unfold enclosed?
  split
  · cases h.1 '(' List.mem_cons_self
  · rfl

/-- A text that encloses another one consists of it and the parentheses. -/
theorem eq_parenthesized_of_enclosed? {s inner : Text} (h : enclosed? s = some inner) :
  s = '(' :: inner ++ [')']
  := by
  unfold enclosed? at h
  split at h
  · rename_i t
    split at h
    · rename_i hlast
      obtain rfl := Option.some.inj h
      obtain ⟨u, rfl⟩ := List.getLast?_eq_some_iff.mp hlast
      simp
    · cases h
  · cases h

namespace Tree

variable {t : Tree}

/-! ### Spellings of grammatical trees -/

/-- The spelling of a grammatical tree is balanced. -/
theorem IsGrammatical.balanced (ht : t.IsGrammatical) :
  Balanced t.spelling
  := by
  induction t with
  | number text => apply balanced_of_opens fun c hc => opens_of_isNumeric (ht.1 c hc)
  | name text => apply balanced_of_opens fun c hc => opens_of_isLetter (ht.2 c hc)
  | parenthesized inner ih => apply (ih ht).parenthesized
  | binary o left right ihleft ihright =>
    have ho : Balanced [o.symbol] := by
      apply balanced_of_opens
      simp
    rw [spelling, List.append_cons]
    apply ((ihleft ht.1).append ho).append (ihright ht.2.1)

/-- A grammatical tree without an operator on top is spelled as a text that is not split. -/
theorem split?_spelling_of_precedence? (ht : t.IsGrammatical) (h : t.precedence? = none)
    (p : Precedence) :
  split? p t.spelling = none
  := by
  cases t with
  | number text => apply split?_eq_none_of_ofChar? fun c hc => ofChar?_of_isNumeric (ht.1 c hc)
  | name text => apply split?_eq_none_of_ofChar? fun c hc => ofChar?_of_isLetter (ht.2 c hc)
  | parenthesized inner =>
    have hinner : inner.IsGrammatical := ht
    apply split?_parenthesized hinner.balanced
  | binary o left right => cases h

/-- An operand that binds more tightly than additive operators has none outside parentheses. -/
theorem split?_additive_spelling (ht : t.IsGrammatical) (h : t.precedence? ≠ some .additive) :
  split? .additive t.spelling = none
  := by
  induction t with
  | number text => apply split?_spelling_of_precedence? ht rfl
  | name text => apply split?_spelling_of_precedence? ht rfl
  | parenthesized inner => apply split?_spelling_of_precedence? ht rfl
  | binary o left right ihleft ihright =>
    have ho : o.precedence = .multiplicative := by
      cases o <;> simp_all [precedence?, Operator.precedence]
    obtain ⟨hleft, hright, hbind⟩ := ht
    rw [ho] at hbind
    rw [spelling, split?_append_symbol_eq_none_iff (by simp [ho]) hright.balanced.2]
    use ihleft hleft hbind.1
    apply split?_spelling_of_precedence? hright hbind.2

/-- The spelling of a tree without an operator outside parentheses does not split. -/
theorem topSplit?_of_precedence? (ht : t.IsGrammatical) (h : t.precedence? = none) :
  topSplit? t.spelling = none
  := topSplit?_eq_none_iff.mpr
    ⟨split?_spelling_of_precedence? ht h _, split?_spelling_of_precedence? ht h _⟩

/-- The spelling of two operands splits at the operator between them. -/
theorem topSplit?_binary {o : Operator} {left right : Tree}
    (ht : (binary o left right).IsGrammatical) :
  topSplit? (binary o left right).spelling = some ⟨left.spelling, o, right.spelling⟩
  := by
  obtain ⟨hleft, hright, hbind⟩ := id ht
  cases ho : o.precedence with
  | additive =>
    rw [ho] at hbind
    apply topSplit?_of_additive _ ho hright.balanced.2
    apply split?_additive_spelling hright hbind
  | multiplicative =>
    rw [ho] at hbind
    apply topSplit?_of_multiplicative ho (split?_additive_spelling hleft hbind.1) hright.balanced.2
    apply topSplit?_of_precedence? hright hbind.2

/-- A tree with an operator outside parentheses splits at one of its precedence. -/
theorem split?_spelling_ne_none {p : Precedence} (ht : t.IsGrammatical)
    (h : t.precedence? = some p) :
  split? p t.spelling ≠ none
  := by
  cases t with
  | number text => cases h
  | name text => cases h
  | parenthesized inner => cases h
  | binary o left right =>
    have hsplit := (split?_of_topSplit? (topSplit?_binary ht)).1
    rw [Option.some.inj h] at hsplit
    rw [hsplit]
    apply Option.some_ne_none

/-- Two trees with an operator between them are grammatical if their spellings are the two sides of
the top split. -/
theorem IsGrammatical.binary {o : Operator} {left right : Tree} (hleft : left.IsGrammatical)
    (hright : right.IsGrammatical)
    (h : topSplit? (binary o left right).spelling = some ⟨left.spelling, o, right.spelling⟩) :
  (binary o left right).IsGrammatical
  := by
  obtain ⟨hsplit, hnone⟩ := split?_of_topSplit? h
  obtain ⟨-, hdepth, hbehind⟩ := right_of_split? hsplit
  use hleft, hright
  cases ho : o.precedence with
  | additive =>
    rw [ho] at hbehind
    intro hp
    apply split?_spelling_ne_none hright hp hbehind
  | multiplicative =>
    rw [ho] at hbehind
    have hadditive := hnone ho
    rw [spelling, split?_append_symbol_eq_none_iff (by simp [ho]) hdepth] at hadditive
    constructor
    · intro hp
      apply split?_spelling_ne_none hleft hp hadditive.1
    · rw [Option.eq_none_iff_forall_ne_some]
      intro p hp
      cases p with
      | additive => apply split?_spelling_ne_none hright hp hadditive.2
      | multiplicative => apply split?_spelling_ne_none hright hp hbehind

/-! ### Uniqueness -/

/-- Of the grammatical trees, only numbers are spelled as literals. -/
theorem eq_number_of_spelling (ht : t.IsGrammatical) (h : IsLiteral t.spelling) :
  t = number t.spelling
  := by
  cases t with
  | number text => rfl
  | name text => cases h.not_isName ht
  | parenthesized inner => apply (h.not_mem rfl List.mem_cons_self).elim
  | binary o left right =>
    apply (h.not_mem (isNumeric_symbol o) (List.mem_append_right _ List.mem_cons_self)).elim

/-- Of the grammatical trees, only names are spelled as names. -/
theorem eq_name_of_spelling (ht : t.IsGrammatical) (h : IsName t.spelling) :
  t = name t.spelling
  := by
  cases t with
  | number text => cases IsLiteral.not_isName ht h
  | name text => rfl
  | parenthesized inner => apply (h.not_mem isLetter_leftParen List.mem_cons_self).elim
  | binary o left right =>
    apply (h.not_mem (isLetter_symbol o) (List.mem_append_right _ List.mem_cons_self)).elim

/-- A text is the spelling of at most one grammatical tree. -/
theorem spelling_injective {t t' : Tree} (ht : t.IsGrammatical) (ht' : t'.IsGrammatical)
    (h : t.spelling = t'.spelling) :
  t = t'
  := by
  induction t generalizing t' with
  | number text =>
    rw [eq_number_of_spelling ht' (h ▸ ht), ← h]
    rfl
  | name text =>
    rw [eq_name_of_spelling ht' (h ▸ ht), ← h]
    rfl
  | parenthesized inner ih =>
    cases t' with
    | number text' => cases eq_number_of_spelling ht (h ▸ ht')
    | name text' => cases eq_name_of_spelling ht (h ▸ ht')
    | parenthesized inner' =>
      have hinner' : inner'.IsGrammatical := ht'
      have henclosed := congrArg enclosed? h
      rw [spelling, spelling, enclosed?_parenthesized, enclosed?_parenthesized] at henclosed
      rw [ih ht hinner' (Option.some.inj henclosed)]
    | binary o' left' right' =>
      have hnone := topSplit?_of_precedence? ht rfl
      rw [h, topSplit?_binary ht'] at hnone
      cases hnone
  | binary o left right ihleft ihright =>
    have hsplit := topSplit?_binary ht
    cases t' with
    | number text' => cases eq_number_of_spelling ht (h ▸ ht')
    | name text' => cases eq_name_of_spelling ht (h ▸ ht')
    | parenthesized inner' =>
      rw [h, topSplit?_of_precedence? ht' rfl] at hsplit
      cases hsplit
    | binary o' left' right' =>
      rw [h, topSplit?_binary ht'] at hsplit
      -- Both spellings are split at the operator on top.
      obtain ⟨hleft, rfl, hright⟩ := Split.mk.inj (Option.some.inj hsplit)
      rw [ihleft ht.1 ht'.1 hleft.symm, ihright ht.2.1 ht'.2.1 hright.symm]

end Tree

end Reckoner
