import Reckoner.Proofs.Expression.Operands
import Reckoner.Proofs.Expression.Reduction
import Reckoner.Proofs.Expression.Substitution

/-!
# Trees with values in the place of names

`Tree.instantiate` puts the texts of values in the place of the names of a tree, and its spelling is
the result of a substitution of tokens in the spelling of the tree. If the values are finite and
have no sign then the outcome is a reading of the result, of the same height and with the value that
the tree has. If one of them is negative or not finite then the result has no reading.
-/

namespace Reckoner

namespace Tree

variable {t : Tree} {values : Text → Option Number}

/-- The tree in which names that have a value are numbers. -/
def instantiate (values : Text → Option Number) : Tree → Tree
  | number text => number text
  | name text =>
    match values text with
    | some v => number v.spell
    | none => name text
  | parenthesized inner => parenthesized (inner.instantiate values)
  | binary o left right => binary o (left.instantiate values) (right.instantiate values)

/-- All names of the tree have values, which are finite and have no sign. -/
def HasUnsignedValues (values : Text → Option Number) (t : Tree) : Prop :=
  ∀ name ∈ t.names, ∃ v, values name = some v ∧ v.IsUnsigned

theorem HasUnsignedValues.left {o : Operator} {left right : Tree}
    (h : (binary o left right).HasUnsignedValues values) :
  left.HasUnsignedValues values
  := fun name hname => h name (List.mem_append_left _ hname)

theorem HasUnsignedValues.right {o : Operator} {left right : Tree}
    (h : (binary o left right).HasUnsignedValues values) :
  right.HasUnsignedValues values
  := fun name hname => h name (List.mem_append_right _ hname)

/-- An instantiation depends on the values of the names of the tree only. -/
theorem instantiate_congr {values' : Text → Option Number}
    (h : ∀ name ∈ t.names, values name = values' name) :
  t.instantiate values = t.instantiate values'
  := by
  induction t with
  | number text => rfl
  | name text => rw [instantiate, instantiate, h text List.mem_cons_self]
  | parenthesized inner ih => rw [instantiate, instantiate, ih h]
  | binary o left right ihleft ihright =>
    rw [instantiate, instantiate, ihleft fun name hname => h name (List.mem_append_left _ hname),
      ihright fun name hname => h name (List.mem_append_right _ hname)]

/-! ### The result of a substitution -/

/-- A substitution of tokens in the spelling of a tree puts values in the place of its names. -/
theorem substituteTokens_spelling (ht : t.IsGrammatical) (b : Bindings) :
  substituteTokens b t.spelling = (t.instantiate b.get?).spelling
  := by
  induction t with
  | number text => apply substituteTokens_numeric b ht.1
  | name text =>
    rw [spelling, substituteTokens_name b ht, Token.substitute, instantiate, Token.name?,
      Option.bind_some]
    cases b.get? text with
    | none => rfl
    | some v => rfl
  | parenthesized inner ih =>
    have hinner : inner.IsGrammatical := ht
    rw [spelling, List.cons_append, substituteTokens_cons b rfl isLetter_leftParen,
      substituteTokens_append_cons b rfl isLetter_rightParen, ih hinner]
    rfl
  | binary o left right ihleft ihright =>
    rw [spelling, substituteTokens_append_cons b (isBlank_symbol o) (isLetter_symbol o),
      ihleft ht.1, ihright ht.2.1]
    rfl

/-! ### Values without a sign -/

theorem precedence?_instantiate (t : Tree) :
  (t.instantiate values).precedence? = t.precedence?
  := by
  cases t with
  | number text => rfl
  | name text =>
    rw [instantiate]
    split
    · rfl
    · rfl
  | parenthesized inner => rfl
  | binary o left right => rfl

theorem height_instantiate (t : Tree) :
  (t.instantiate values).height = t.height
  := by
  induction t with
  | number text => rfl
  | name text =>
    rw [instantiate]
    split
    · rfl
    · rfl
  | parenthesized inner ih => rw [instantiate, height, height, ih]
  | binary o left right ihleft ihright => rw [instantiate, height, height, ihleft, ihright]

/-- A name with a value becomes a number. -/
theorem instantiate_name (values : Text → Option Number) {text : Text} {v : Number}
    (h : values text = some v) :
  (name text).instantiate values = number v.spell
  := by
  rw [instantiate, h]

/-- A grammatical tree is grammatical when its names have unsigned values. -/
theorem IsGrammatical.instantiate (ht : t.IsGrammatical) (h : t.HasUnsignedValues values) :
  (t.instantiate values).IsGrammatical
  := by
  induction t with
  | number text => apply ht
  | name text =>
    obtain ⟨v, hv, hunsigned⟩ := h text List.mem_cons_self
    rw [instantiate_name values hv]
    apply Number.isLiteral_spell hunsigned
  | parenthesized inner ih => apply ih ht h
  | binary o left right ihleft ihright =>
    use ihleft ht.1 h.left, ihright ht.2.1 h.right
    rw [precedence?_instantiate, precedence?_instantiate]
    apply ht.2.2

/-- No names are left if all of them have values. -/
theorem names_instantiate (h : t.HasUnsignedValues values) :
  (t.instantiate values).names = []
  := by
  induction t with
  | number text => rfl
  | name text =>
    obtain ⟨v, hv, -⟩ := h text List.mem_cons_self
    rw [instantiate_name values hv]
    rfl
  | parenthesized inner ih => apply ih h
  | binary o left right ihleft ihright =>
    rw [instantiate, names, ihleft h.left, ihright h.right]
    rfl

/-- The value of a tree does not change when its names become numbers. -/
theorem value_instantiate (h : t.HasUnsignedValues values) (values' : Text → Option Number) :
  (t.instantiate values).value values' = t.value values
  := by
  induction t with
  | number text => rfl
  | name text =>
    obtain ⟨v, hv, hunsigned⟩ := h text List.mem_cons_self
    rw [instantiate_name values hv, value, value, hv]
    apply Number.literal_spell hunsigned
  | parenthesized inner ih => apply ih h
  | binary o left right ihleft ihright =>
    rw [instantiate, value, value, ihleft h.left, ihright h.right]

/-- A grammatical tree whose names have unsigned values is a reading of its spelling. -/
theorem isReading_instantiate (ht : t.IsGrammatical) (h : t.HasUnsignedValues values) :
  (t.instantiate values).IsReading (t.instantiate values).spelling
  := ⟨ht.instantiate h, names_instantiate h, rfl⟩

/-- The spelling of a tree with unsigned values put in reduces to the value of the tree. -/
theorem reduce_instantiate (ht : t.IsGrammatical) (h : t.HasUnsignedValues values)
    (hheight : t.height ≤ maxDepth) :
  reduce (t.instantiate values).spelling = t.value values
  := by
  have hheight' : (t.instantiate values).height ≤ maxDepth := by
    rw [height_instantiate]
    apply hheight
  rw [(isReading_instantiate ht h).reduce_eq hheight' values, value_instantiate h]

/-! ### Other values -/

/-- The names of a grammatical tree are those of its spelling. -/
theorem nameRuns_spelling (ht : t.IsGrammatical) :
  nameRuns t.spelling = t.names
  := by
  induction t with
  | number text => apply nameRuns_eq_nil_iff.mpr fun c hc => isLetter_of_isNumeric (ht.1 c hc)
  | name text =>
    rw [spelling, nameRuns, tokens_name ht]
    rfl
  | parenthesized inner ih =>
    have hinner : inner.IsGrammatical := ht
    rw [spelling, List.cons_append, nameRuns_cons isLetter_leftParen,
      nameRuns_append_cons isLetter_rightParen, ih hinner]
    apply List.append_nil
  | binary o left right ihleft ihright =>
    rw [spelling, nameRuns_append_cons (isLetter_symbol o), ihleft ht.1, ihright ht.2.1]
    rfl

/-- What can be read as a tree has no letters. -/
theorem IsReading.isLetter_of_mem {s : Text} (ht : t.IsReading s) {c : Char} (hc : c ∈ s) :
  isLetter c = false
  := by
  have hnone : nameRuns s = [] := by
    rw [← ht.spelling_eq, nameRuns_spelling ht.grammatical, ht.nameless]
  apply nameRuns_eq_nil_iff.mp hnone c hc

/-- The text of a value comes where an operand is due. -/
theorem exists_spelling_instantiate {text : Text} {v : Number} (h : text ∈ t.names)
    (hv : values text = some v) :
  ∃ left right, (t.instantiate values).spelling = left ++ (v.spell ++ right)
    ∧ ¬EndsWithOperand left
  := by
  induction t with
  | number text' => cases h
  | name text' =>
    rw [names, List.mem_singleton] at h
    subst h
    use [], []
    rw [instantiate_name values hv, List.append_nil]
    use rfl, not_endsWithOperand_nil
  | parenthesized inner ih =>
    obtain ⟨left, right, hspelling, hleft⟩ := ih h
    use '(' :: left, right ++ [')']
    constructor
    · rw [instantiate, spelling, hspelling]
      simp
    · intro hends
      apply hleft (EndsWithOperand.of_append_cons (s := []) (.inl rfl) hends)
  | binary o l r ihl ihr =>
    rcases List.mem_append.mp h with h | h
    · obtain ⟨left, right, hspelling, hleft⟩ := ihl h
      use left, right ++ o.symbol :: (r.instantiate values).spelling
      constructor
      · rw [instantiate, spelling, hspelling]
        simp
      · apply hleft
    · obtain ⟨left, right, hspelling, hleft⟩ := ihr h
      use (l.instantiate values).spelling ++ o.symbol :: left, right
      constructor
      · rw [instantiate, spelling, hspelling]
        simp
      · intro hends
        apply hleft (hends.of_append_cons (.inr ⟨o, rfl⟩))

/-- There is no reading once a value with a sign, or one that is not finite, is put in. -/
theorem not_isReading_instantiate {text : Text} {v : Number} (h : text ∈ t.names)
    (hv : values text = some v) (hsigned : ¬v.IsUnsigned) (t' : Tree) :
  ¬t'.IsReading (t.instantiate values).spelling
  := by
  intro ht'
  obtain ⟨left, right, hspelling, hleft⟩ := exists_spelling_instantiate h hv
  rw [hspelling] at ht'
  by_cases hfinite : v.IsFinite
  · have hnegative : v.isNegative := by
      by_contra hpositive
      apply hsigned ⟨hfinite, Bool.not_eq_true _ ▸ hpositive⟩
    obtain ⟨s, hs⟩ := Number.exists_spell_of_isNegative hfinite hnegative
    rw [hs] at ht'
    -- The sign would be an operator without an operand on its left.
    apply hleft
    apply ht'.grammatical.endsWithOperand_of_eq (o := .sub) ht'.spelling_eq
  · -- The word would have letters, which no reading has.
    obtain ⟨c, hc, hletter⟩ := Number.exists_isLetter_of_not_isFinite hfinite
    have hmem : c ∈ left ++ (v.spell ++ right) :=
      List.mem_append_right left (List.mem_append_left right hc)
    rw [ht'.isLetter_of_mem hmem] at hletter
    cases hletter

/-- The spelling of a tree with a value put in that is not unsigned does not reduce to a number. -/
theorem reduce_instantiate_ne_ok {text : Text} {v : Number} (h : text ∈ t.names)
    (hv : values text = some v) (hsigned : ¬v.IsUnsigned) (w : Number) :
  reduce (t.instantiate values).spelling ≠ .ok w
  := by
  intro hw
  obtain ⟨t', ht', -⟩ := exists_isReading_of_reduce hw
  apply not_isReading_instantiate h hv hsigned t' ht'

/-- The text of a tree with values reduces to a number if and only if the values are finite and have
no sign, the tree is no higher than the greatest depth, and its value is this number. -/
theorem reduce_instantiate_eq_ok_iff (ht : t.IsGrammatical)
    (hvalues : ∀ name ∈ t.names, (values name).isSome) {w : Number} :
  reduce (t.instantiate values).spelling = .ok w
    ↔ t.HasUnsignedValues values ∧ t.height ≤ maxDepth ∧ t.value values = .ok w
  := by
  constructor
  · intro hw
    have hunsigned : t.HasUnsignedValues values := by
      intro name hname
      obtain ⟨v, hv⟩ := Option.isSome_iff_exists.mp (hvalues name hname)
      use v, hv
      by_contra hsigned
      apply reduce_instantiate_ne_ok hname hv hsigned w hw
    obtain ⟨t', ht', hheight, hvalue⟩ := exists_isReading_of_reduce hw
    rw [ht'.unique (isReading_instantiate ht hunsigned)] at hheight hvalue
    rw [height_instantiate] at hheight
    use hunsigned, hheight
    rw [← value_instantiate hunsigned values]
    apply hvalue
  · rintro ⟨hunsigned, hheight, hvalue⟩
    rw [reduce_instantiate ht hunsigned hheight, hvalue]

end Tree

end Reckoner
