import Mathlib.Data.List.Sort
import Reckoner.Proofs.Expression.Substitution

/-!
# The partition of a text into lexemes

A lexeme is a part of a text if its token is the text between its positions and no character next
to it belongs to the same run. Every such part is among the lexemes of the text
(`Lexeme.IsPart.mem_lexemes`), and every lexeme is such a part (`isPartition_lexemes`). The lexemes
ascend without overlapping and cover the characters that are not blank, so that they are the only
list with these properties: nothing could be added to them, and what is left out would be missed.
-/

namespace Reckoner

/-! ### Whole tokens -/

/-- A character is foreign if it has no place in an expression. -/
def IsForeign (c : Char) : Prop :=
  isBlank c = false ∧ Number.isNumeric c = false ∧ isLetter c = false
    ∧ c ∉ ['(', ')', '+', '-', '*', '/']

theorem IsForeign.ne_symbol {c : Char} (h : IsForeign c) (o : Operator) :
  c ≠ o.symbol
  := by
  rintro rfl
  apply h.2.2.2
  cases o <;> decide

namespace Token

/-- A token is whole if its text has the form that its kind requires. -/
def IsWhole : Token → Prop
  | number text => text ≠ [] ∧ ∀ c ∈ text, Number.isNumeric c
  | name text => IsName text
  | other c => IsForeign c
  | _ => True

/-- A run takes in the characters of its kind, and a token of any other kind takes in none. -/
def TakesIn : Token → Char → Prop
  | number _, c => Number.isNumeric c
  | name _, c => isLetter c
  | _, _ => False

variable {t : Token}

/-- A foreign character makes a token of its own. -/
theorem ofChar_of_isForeign {c : Char} (h : IsForeign c) :
  ofChar c = other c
  := by
  have hoperator := ofChar?_eq_none h.ne_symbol
  obtain ⟨-, hnumeric, hletter, hmem⟩ := h
  simp only [List.mem_cons, not_or] at hmem
  simp [ofChar, hnumeric, hletter, hmem.1, hmem.2.1, hoperator]

/-- A character that is not blank makes a whole token. -/
theorem isWhole_ofChar {c : Char} (h : isBlank c = false) :
  (ofChar c).IsWhole
  := by
  unfold ofChar
  split
  · rename_i hnumeric
    use List.cons_ne_nil c []
    intro d hd
    rw [List.mem_singleton.mp hd]
    apply hnumeric
  split
  · rename_i hletter
    use List.cons_ne_nil c []
    intro d hd
    rw [List.mem_singleton.mp hd]
    apply hletter
  split
  · trivial
  split
  · trivial
  split
  · trivial
  · rename_i hnumeric hletter hleft hright _ hoperator
    refine ⟨h, Bool.eq_false_iff.mpr hnumeric, Bool.eq_false_iff.mpr hletter, ?_⟩
    simp only [List.mem_cons, List.not_mem_nil, or_false]
    rintro (rfl | rfl | rfl | rfl | rfl | rfl)
    · apply hleft rfl
    · apply hright rfl
    all_goals cases hoperator

/-- A whole token is a run of numeric characters or of letters, or a single character of another
kind. -/
theorem IsWhole.cases (ht : t.IsWhole) :
  (∃ text, t = number text ∧ text ≠ [] ∧ ∀ c ∈ text, Number.isNumeric c)
    ∨ (∃ text, t = name text ∧ IsName text)
    ∨ ∃ c, t.spelling = [c] ∧ t = ofChar c ∧ isBlank c = false ∧ isLetter c = false
      ∧ Number.isNumeric c = false ∧ ∀ d, ¬t.TakesIn d
  := by
  cases t with
  | number text => exact .inl ⟨text, rfl, ht⟩
  | name text => exact .inr (.inl ⟨text, rfl, ht⟩)
  | operator o =>
    refine .inr (.inr ⟨o.symbol, rfl, (ofChar_symbol o).symm, isBlank_symbol o, isLetter_symbol o,
      isNumeric_symbol o, fun _ => not_false⟩)
  | leftParen =>
    refine .inr (.inr ⟨'(', rfl, rfl, rfl, isLetter_leftParen, rfl, fun _ => not_false⟩)
  | rightParen =>
    refine .inr (.inr ⟨')', rfl, rfl, rfl, isLetter_rightParen, rfl, fun _ => not_false⟩)
  | other c =>
    refine .inr (.inr ⟨c, rfl, (ofChar_of_isForeign ht).symm, ht.1, ht.2.2.1, ht.2.1,
      fun _ => not_false⟩)

theorem IsWhole.spelling_ne_nil (ht : t.IsWhole) :
  t.spelling ≠ []
  := by
  rcases ht.cases with ⟨text, rfl, hne, -⟩ | ⟨text, rfl, hname⟩ | ⟨c, hc, -⟩
  · apply hne
  · apply hname.1
  · rw [hc]
    apply List.cons_ne_nil

/-- A whole token is spelled without blank characters. -/
theorem IsWhole.isBlank_of_mem (ht : t.IsWhole) {c : Char} (hc : c ∈ t.spelling) :
  isBlank c = false
  := by
  rcases ht.cases with ⟨text, rfl, -, hnumeric⟩ | ⟨text, rfl, hname⟩ | ⟨d, hd, -, hblank, -⟩
  · apply isBlank_of_isNumeric (hnumeric c hc)
  · apply isBlank_of_isLetter (hname.2 c hc)
  · rw [hd] at hc
    rw [List.mem_singleton.mp hc]
    apply hblank

/-- The characters akin to those of a whole token are the ones that the token takes in. -/
theorem IsWhole.akin_iff (ht : t.IsWhole) {a b : Char} (ha : a ∈ t.spelling) :
  Akin a b ↔ t.TakesIn b
  := by
  rcases ht.cases with ⟨text, rfl, -, hnumeric⟩ | ⟨text, rfl, hname⟩
    | ⟨c, hc, -, -, hletter, hnumeric, hnone⟩
  · have ha' := hnumeric a ha
    simp [Akin, TakesIn, ha', isLetter_of_isNumeric ha']
  · have ha' := hname.2 a ha
    simp [Akin, TakesIn, ha', isNumeric_of_isLetter ha']
  · rw [hc] at ha
    rw [List.mem_singleton.mp ha, iff_false_right (hnone b)]
    simp [Akin, hletter, hnumeric]

end Token

theorem akin_comm {a b : Char} :
  Akin a b ↔ Akin b a
  := by
  simp only [Akin, and_comm]

/-! ### Seams around a token -/

section

variable {t : Token} {s : Text}

/-- A whole token does not continue into a text if and only if it does not take in the first
character of it. -/
theorem Token.IsWhole.isSeam_iff (ht : t.IsWhole) :
  IsSeam t.spelling s ↔ ∀ c ∈ s.head?, ¬t.TakesIn c
  := by
  constructor
  · intro h c hc htakes
    have hlast := List.getLast?_eq_some_getLast ht.spelling_ne_nil
    apply h _ hlast c hc
    apply (ht.akin_iff (List.getLast_mem _)).mpr htakes
  · intro h a ha b hb hakin
    apply h b hb
    apply (ht.akin_iff (List.mem_of_mem_getLast? ha)).mp hakin

/-- There is a seam in front of a text that starts with a whole token if and only if the token takes
in no character from its left. -/
theorem Token.IsWhole.isSeam_append_iff (ht : t.IsWhole) {left : Text} :
  IsSeam left (t.spelling ++ s) ↔ ∀ c ∈ left.getLast?, ¬t.TakesIn c
  := by
  have hhead : (t.spelling ++ s).head? = some (t.spelling.head ht.spelling_ne_nil) := by
    rw [List.head?_append_of_ne_nil _ ht.spelling_ne_nil, List.head?_eq_some_head]
  have hmem := List.head_mem ht.spelling_ne_nil
  constructor
  · intro h c hc htakes
    apply h c hc _ hhead
    apply akin_comm.mp ((ht.akin_iff hmem).mpr htakes)
  · intro h a ha b hb hakin
    apply h a ha
    apply (ht.akin_iff _).mp (akin_comm.mp hakin)
    rw [Option.mem_def, hhead, Option.some_inj] at hb
    rw [← hb]
    apply hmem

/-- A whole token by itself is one lexeme. -/
theorem lexemesFrom_spelling (ht : t.IsWhole) (position : Nat) :
  lexemesFrom position t.spelling = [⟨t, position, position + t.spelling.utf8Length⟩]
  := by
  rcases ht.cases with ⟨text, rfl, hne, hnumeric⟩ | ⟨text, rfl, hname⟩ | ⟨c, hc, hchar, hblank, -⟩
  · apply lexemesFrom_run Token.number hne (fun c hc => isBlank_of_isNumeric (hnumeric c hc))
      (fun c hc => Token.ofChar_of_isNumeric (hnumeric c hc)) fun s t => rfl
  · apply lexemesFrom_run Token.name hname.1 (fun c hc => isBlank_of_isLetter (hname.2 c hc))
      (fun c hc => Token.ofChar_of_isLetter (hname.2 c hc)) fun s t => rfl
  · rw [hc, hchar, lexemesFrom_cons hblank]
    rfl

/-- Two whole tokens that are spelled alike are the same. -/
theorem Token.IsWhole.eq_of_spelling_eq {t' : Token} (ht : t.IsWhole) (ht' : t'.IsWhole)
    (h : t.spelling = t'.spelling) :
  t = t'
  := by
  have hlexemes := lexemesFrom_spelling ht 0
  rw [h, lexemesFrom_spelling ht'] at hlexemes
  apply (Lexeme.mk.inj (List.singleton_inj.mp hlexemes)).1.symm

/-- A whole token that the text behind it does not continue is the first lexeme. -/
theorem lexemesFrom_spelling_append (ht : t.IsWhole) (hs : IsSeam t.spelling s) (position : Nat) :
  lexemesFrom position (t.spelling ++ s)
    = ⟨t, position, position + t.spelling.utf8Length⟩
      :: lexemesFrom (position + t.spelling.utf8Length) s
  := by
  rw [lexemesFrom_append hs, lexemesFrom_spelling ht]
  rfl

/-- A text that does not start with a blank character starts with a whole token. -/
theorem exists_isWhole {c : Char} (h : isBlank c = false) (s : Text) :
  ∃ (t : Token) (rest : Text), c :: s = t.spelling ++ rest ∧ t.IsWhole ∧ IsSeam t.spelling rest
  := by
  by_cases hnumeric : Number.isNumeric c
  · obtain ⟨run, rest, hs, hne, hrun, hrest, -⟩ := exists_run hnumeric s
    have ht : (Token.number run).IsWhole := ⟨hne, hrun⟩
    use .number run, rest, hs, ht
    rw [ht.isSeam_iff]
    intro d hd
    apply Bool.eq_false_iff.mp (hrest d hd)
  · by_cases hletter : isLetter c
    · obtain ⟨run, rest, hs, hname, hrest, -⟩ := exists_run_of_isLetter hletter s
      use .name run, rest, hs, hname
      apply isSeam_of_isName hname hrest
    · use .ofChar c, s
      refine ⟨?_, Token.isWhole_ofChar h, ?_⟩
      · rw [Token.spelling_ofChar]
        rfl
      · rw [Token.spelling_ofChar]
        apply isSeam_append_singleton (Bool.eq_false_iff.mpr hletter)
          (Bool.eq_false_iff.mpr hnumeric) []

/-- Induction on a text that takes a whole token at a time. -/
@[elab_as_elim]
theorem Text.tokenInduction {motive : Text → Prop} (nil : motive [])
    (blank : ∀ c s, isBlank c → motive s → motive (c :: s))
    (token : ∀ (t : Token) s, t.IsWhole → IsSeam t.spelling s → motive s → motive (t.spelling ++ s))
    (s : Text) :
  motive s
  := by
  induction hlength : s.length using Nat.strongRecOn generalizing s with
  | ind n ih =>
    cases s with
    | nil => apply nil
    | cons c s =>
      subst hlength
      by_cases hblank : isBlank c
      · apply blank c s hblank
        apply ih s.length (Nat.lt_succ_self s.length) s rfl
      · rw [Bool.not_eq_true] at hblank
        obtain ⟨t, rest, hs, ht, hseam⟩ := exists_isWhole hblank s
        rw [hs]
        apply token t rest ht hseam
        apply ih rest.length _ rest rfl
        have hpos := List.length_pos_iff.mpr ht.spelling_ne_nil
        rw [hs, List.length_append]
        omega

end

/-! ### Parts of a text -/

/-- A lexeme is a part of a text between two others if its token is whole and stands there, its
positions are those of the two ends, and it takes in no character on its left or right. -/
structure Lexeme.IsPart (l : Lexeme) (s before after : Text) : Prop where
  text_eq : s = before ++ l.token.spelling ++ after
  start_eq : l.start = before.utf8Length
  stop_eq : l.stop = (before ++ l.token.spelling).utf8Length
  isWhole : l.token.IsWhole
  maximal_left : ∀ c ∈ before.getLast?, ¬l.token.TakesIn c
  maximal_right : ∀ c ∈ after.head?, ¬l.token.TakesIn c

/-- A lexeme covers the positions from its start on and before its stop. -/
def Lexeme.Covers (l : Lexeme) (position : Nat) : Prop :=
  l.start ≤ position ∧ position < l.stop

/-- Lexemes partition a text if they are parts of it that ascend without overlapping and cover the
characters that are not blank, and only these. -/
structure IsPartition (s : Text) (ls : List Lexeme) : Prop where
  exists_isPart : ∀ l ∈ ls, ∃ before after, l.IsPart s before after
  ascending : ls.Pairwise fun a b => a.start < b.start ∧ a.stop ≤ b.start
  covers_iff : ∀ (before : Text) (c : Char) (after : Text), s = before ++ c :: after →
    ((∃ l ∈ ls, l.Covers before.utf8Length) ↔ isBlank c = false)

variable {s : Text} {l : Lexeme}

theorem utf8Length_pos {t : Text} (h : t ≠ []) :
  0 < t.utf8Length
  := by
  obtain ⟨c, t, rfl⟩ := List.exists_cons_of_ne_nil h
  rw [Text.utf8Length_cons]
  apply Nat.add_pos_left c.utf8Size_pos

namespace Lexeme

/-- The lexemes of a text are those in front of a part, the part itself and those behind it, since
there are seams on both sides of it. -/
theorem IsPart.lexemes_eq {before after : Text} (h : l.IsPart s before after) :
  lexemes s = lexemes before ++ l :: lexemesFrom l.stop after
  := by
  rw [h.text_eq, lexemes, List.append_assoc,
    lexemesFrom_append (h.isWhole.isSeam_append_iff.mpr h.maximal_left),
    lexemesFrom_spelling_append h.isWhole (h.isWhole.isSeam_iff.mpr h.maximal_right), Nat.zero_add,
    ← Text.utf8Length_append, ← h.start_eq, ← h.stop_eq]
  rfl

/-- Each part of a text is one of its lexemes. -/
theorem IsPart.mem_lexemes {before after : Text} (h : l.IsPart s before after) :
  l ∈ lexemes s
  := by
  rw [h.lexemes_eq]
  apply List.mem_append_right _ List.mem_cons_self

/-- A part of a text covers the position where it starts, and a character is there. -/
theorem IsPart.exists_covers {before after : Text} (h : l.IsPart s before after) :
  l.Covers before.utf8Length ∧ ∃ c rest, s = before ++ c :: rest
  := by
  have hpos := utf8Length_pos h.isWhole.spelling_ne_nil
  constructor
  · rw [Covers, h.start_eq, h.stop_eq, Text.utf8Length_append]
    omega
  · obtain ⟨c, rest, hspelling⟩ := List.exists_cons_of_ne_nil h.isWhole.spelling_ne_nil
    use c, rest ++ after
    rw [h.text_eq, hspelling, List.append_assoc, List.cons_append]

end Lexeme

/-- Where a character of two texts one after the other is. -/
theorem append_eq_append_cons {s t before after : Text} {c : Char}
    (h : s ++ t = before ++ c :: after) :
  (∃ u, s = before ++ c :: u) ∨ ∃ u, before = s ++ u ∧ t = u ++ c :: after
  := by
  rcases List.append_eq_append_iff.mp h with ⟨u, hbefore, ht⟩ | ⟨u, hs, hcons⟩
  · right
    use u
  · rcases List.cons_eq_append_iff.mp hcons with ⟨rfl, ht⟩ | ⟨u', rfl, -⟩
    · right
      use []
      rw [List.append_nil] at hs ⊢
      use hs.symm, ht
    · left
      use u'

/-- Lexemes that ascend without overlapping and cover the same position are the same. -/
theorem eq_of_covers {ls : List Lexeme} {l l' : Lexeme} {position : Nat}
    (h : ls.Pairwise fun a b => a.start < b.start ∧ a.stop ≤ b.start) (hl : l ∈ ls) (hl' : l' ∈ ls)
    (hcovers : l.Covers position) (hcovers' : l'.Covers position) :
  l = l'
  := by
  induction ls with
  | nil => cases hl
  | cons first rest ih =>
    rw [List.pairwise_cons] at h
    obtain ⟨hstart, hstop⟩ := hcovers
    obtain ⟨hstart', hstop'⟩ := hcovers'
    rcases List.mem_cons.mp hl with rfl | hrest
    · rcases List.mem_cons.mp hl' with rfl | hrest'
      · rfl
      · have := h.1 l' hrest'
        omega
    · rcases List.mem_cons.mp hl' with rfl | hrest'
      · have := h.1 l hrest
        omega
      · apply ih h.2 hrest hrest'

/-! ### The lexemes are a partition -/

/-- The lexemes of a text behind a seam are parts of the whole. -/
theorem exists_isPart_of_mem_lexemesFrom {left : Text} (hleft : IsSeam left s)
    (h : l ∈ lexemesFrom left.utf8Length s) :
  ∃ before after, l.IsPart (left ++ s) before after
  := by
  induction s using Text.tokenInduction generalizing left with
  | nil => cases h
  | blank c s hblank ih =>
    have hlexemes : lexemesFrom left.utf8Length (c :: s)
        = lexemesFrom (left ++ [c]).utf8Length s := by
      rw [lexemesFrom_cons_of_isBlank hblank, Text.utf8Length_append]
      rfl
    rw [hlexemes] at h
    rw [List.append_cons]
    apply ih _ h
    apply isSeam_append_singleton (isLetter_of_isBlank hblank) (isNumeric_of_isBlank hblank)
  | token t s ht hs ih =>
    rw [lexemesFrom_spelling_append ht hs] at h
    rcases List.mem_cons.mp h with rfl | h
    · use left, s
      constructor
      · rw [List.append_assoc]
      · rfl
      · rw [Text.utf8Length_append]
      · apply ht
      · apply ht.isSeam_append_iff.mp hleft
      · apply ht.isSeam_iff.mp hs
    · rw [← Text.utf8Length_append] at h
      rw [← List.append_assoc]
      apply ih _ h
      intro a ha
      apply hs a
      rw [List.getLast?_append_of_ne_nil _ ht.spelling_ne_nil] at ha
      apply ha

/-- The lexemes of a text ascend without overlapping. -/
theorem pairwise_lexemesFrom (position : Nat) (s : Text) :
  (lexemesFrom position s).Pairwise fun a b => a.start < b.start ∧ a.stop ≤ b.start
  := by
  induction s using Text.tokenInduction generalizing position with
  | nil => apply List.Pairwise.nil
  | blank c s hblank ih =>
    rw [lexemesFrom_cons_of_isBlank hblank]
    apply ih
  | token t s ht hs ih =>
    rw [lexemesFrom_spelling_append ht hs, List.pairwise_cons]
    constructor
    · intro b hb
      have hle := le_start_of_mem_lexemesFrom hb
      have hpos := utf8Length_pos ht.spelling_ne_nil
      change position < b.start ∧ position + t.spelling.utf8Length ≤ b.start
      omega
    · apply ih

/-- Of the positions behind the start of a text, its lexemes cover those of the characters that are
not blank. -/
theorem covers_lexemesFrom_iff {before after : Text} {c : Char} (hs : s = before ++ c :: after)
    (position : Nat) :
  (∃ l ∈ lexemesFrom position s, l.Covers (position + before.utf8Length)) ↔ isBlank c = false
  := by
  induction s using Text.tokenInduction generalizing before position with
  | nil => cases List.append_ne_nil_of_right_ne_nil before (List.cons_ne_nil c after) hs.symm
  | blank d s hblank ih =>
    rw [lexemesFrom_cons_of_isBlank hblank]
    rcases List.cons_eq_append_iff.mp hs with ⟨rfl, hcons⟩ | ⟨before', rfl, hs'⟩
    · obtain ⟨rfl, -⟩ := List.cons.inj hcons
      rw [hblank, iff_false_right Bool.true_eq_false.mp]
      rintro ⟨l, hl, hstart, -⟩
      have hle := le_start_of_mem_lexemesFrom hl
      have hpos := c.utf8Size_pos
      rw [Text.utf8Length_nil] at hstart
      omega
    · rw [Text.utf8Length_cons, ← Nat.add_assoc]
      apply ih hs'
  | token t s ht hseam ih =>
    rw [lexemesFrom_spelling_append ht hseam]
    rcases append_eq_append_cons hs with ⟨u, hspelling⟩ | ⟨u, rfl, hu⟩
    · have hblank : isBlank c = false := by
        apply ht.isBlank_of_mem
        rw [hspelling]
        apply List.mem_append_right _ List.mem_cons_self
      rw [iff_true_right hblank]
      have hpos := c.utf8Size_pos
      refine ⟨_, List.mem_cons_self, Nat.le_add_right _ _, ?_⟩
      simp only [hspelling, Text.utf8Length_append, Text.utf8Length_cons]
      omega
    · -- The first token stops in front of the character.
      have hhead : ∀ p, ¬(⟨t, position, position + t.spelling.utf8Length⟩ : Lexeme).Covers
          (position + t.spelling.utf8Length + p) := by
        rintro p ⟨-, hstop⟩
        simp only at hstop
        omega
      rw [Text.utf8Length_append, ← Nat.add_assoc, ← ih hu (position + t.spelling.utf8Length)]
      simp only [List.mem_cons, or_and_right, exists_or, exists_eq_left, hhead, false_or]

/-- The lexemes of a text partition it. -/
theorem isPartition_lexemes (s : Text) :
  IsPartition s (lexemes s)
  := by
  constructor
  · intro l hl
    have hseam : IsSeam [] s := by
      intro a ha
      cases ha
    apply exists_isPart_of_mem_lexemesFrom hseam hl
  · apply pairwise_lexemesFrom
  · intro before c after hs
    rw [lexemes, ← Nat.zero_add before.utf8Length]
    apply covers_lexemesFrom_iff hs

/-- No other lexemes partition a text: they would have to be some of the lexemes of the text, and
each of these covers a character that no other one covers. -/
theorem IsPartition.eq_lexemes {ls : List Lexeme} (h : IsPartition s ls) :
  ls = lexemes s
  := by
  have hlexemes := isPartition_lexemes s
  have hsubset : ∀ l ∈ ls, l ∈ lexemes s := by
    intro l hl
    obtain ⟨before, after, hpart⟩ := h.exists_isPart l hl
    apply hpart.mem_lexemes
  have : Std.Antisymm fun a b : Lexeme => a.start < b.start ∧ a.stop ≤ b.start :=
    ⟨fun a b hab hba => by omega⟩
  have : Std.Irrefl fun a b : Lexeme => a.start < b.start ∧ a.stop ≤ b.start :=
    ⟨fun a ha => by omega⟩
  apply h.ascending.eq_of_mem_iff hlexemes.ascending
  intro l
  use hsubset l
  intro hl
  obtain ⟨before, after, hpart⟩ := hlexemes.exists_isPart l hl
  obtain ⟨hcovers, c, rest, hs⟩ := hpart.exists_covers
  have hblank := (hlexemes.covers_iff before c rest hs).mp ⟨l, hl, hcovers⟩
  -- What covers the character in `ls` is a lexeme of the text, and no other one than `l` covers it.
  obtain ⟨l', hl', hcovers'⟩ := (h.covers_iff before c rest hs).mpr hblank
  rw [eq_of_covers hlexemes.ascending hl (hsubset l' hl') hcovers hcovers']
  apply hl'

/-! ### The characters of the lexemes -/

/-- The tokens of a text are spelled one after the other as the stripped text. -/
theorem flatMap_spelling_tokens (s : Text) :
  (tokens s).flatMap Token.spelling = s.strip
  := by
  induction s using Text.tokenInduction with
  | nil => rfl
  | blank c s hblank ih => rw [tokens_cons_of_isBlank hblank, strip_cons_of_isBlank hblank, ih]
  | token t s ht hs ih =>
    have hstrip : Text.strip t.spelling = t.spelling :=
      Text.strip_eq_self_iff.mpr fun c hc => ht.isBlank_of_mem hc
    rw [tokens_append hs, List.flatMap_append, ih, Text.strip_append, hstrip, tokens, lexemes,
      lexemesFrom_spelling ht, List.map_singleton, List.flatMap_singleton]

/-- If no name of a text has a value then the substitution of its tokens only strips it. -/
theorem substituteTokens_eq_strip {b : Bindings}
    (h : ∀ name ∈ variableNames s, b.get? name = none) :
  substituteTokens b s = s.strip
  := by
  have htoken : ∀ t ∈ tokens s, Token.substitute b t = t.spelling := by
    intro t ht
    rw [Token.substitute]
    cases hname : t.name? with
    | none => rfl
    | some name =>
      rw [Token.name?_eq_some_iff] at hname
      rw [hname] at ht
      rw [Option.bind_some, h name (mem_variableNames.mpr ht)]
  rw [substituteTokens, List.flatMap_congr htoken, flatMap_spelling_tokens]

theorem Token.isOperator_iff {t : Token} :
  t.isOperator ↔ ∃ o, t = .operator o
  := by
  cases t <;> simp [isOperator, operator?]

/-- A whole token is an operator if and only if its text is one of the four symbols. -/
theorem Token.IsWhole.isOperator_iff_spelling {t : Token} (ht : t.IsWhole) :
  t.isOperator ↔ t.spelling ∈ [['+'], ['-'], ['*'], ['/']]
  := by
  have hsymbol : ∀ o : Operator, [o.symbol] ∈ [['+'], ['-'], ['*'], ['/']] := by
    intro o
    cases o <;> decide
  rw [isOperator_iff]
  constructor
  · rintro ⟨o, rfl⟩
    apply hsymbol
  · intro h
    have hspelling : ∃ o : Operator, t.spelling = [o.symbol] := by
      simp only [List.mem_cons, List.not_mem_nil, or_false] at h
      rcases h with h | h | h | h
      · use .add, h
      · use .sub, h
      · use .mul, h
      · use .div, h
    obtain ⟨o, ho⟩ := hspelling
    have hoperator : (operator o).IsWhole := trivial
    use o, ht.eq_of_spelling_eq hoperator ho

/-- The lexemes of a text are the only ones that partition it. Their texts one after the other are
the stripped text, which is therefore what a substitution of tokens yields if no name of the text
has a value, and the operators among them are those whose text is one of the four symbols. -/
theorem isPartition_iff_eq_lexemes (s : Text) :
  (∀ ls, IsPartition s ls ↔ ls = lexemes s)
    ∧ (lexemes s).flatMap (fun l => l.token.spelling) = s.strip
    ∧ (∀ b : Bindings, (∀ name ∈ variableNames s, b.get? name = none) →
        substitute .token b s = s.strip)
    ∧ ∀ l ∈ lexemes s, l.token.isOperator ↔ l.token.spelling ∈ [['+'], ['-'], ['*'], ['/']]
  := by
  refine ⟨fun ls => ⟨IsPartition.eq_lexemes, ?_⟩, ?_, fun b => substituteTokens_eq_strip, ?_⟩
  · rintro rfl
    apply isPartition_lexemes
  · rw [← flatMap_spelling_tokens, tokens, List.flatMap_map]
  · intro l hl
    obtain ⟨before, after, hpart⟩ := (isPartition_lexemes s).exists_isPart l hl
    apply hpart.isWhole.isOperator_iff_spelling

/-- A letter of two bytes and a foreign character. -/
theorem isPartition_accent :
  IsPartition ['2', ' ', 'é', '%']
      [⟨.number ['2'], 0, 1⟩, ⟨.name ['é'], 2, 4⟩, ⟨.other '%', 4, 5⟩]
    ∧ substitute .token .empty ['2', ' ', 'é', '%'] = ['2', 'é', '%']
  := by
  obtain ⟨hpartition, -, hsubstitute, -⟩ := isPartition_iff_eq_lexemes ['2', ' ', 'é', '%']
  constructor
  · rw [hpartition]
    decide +kernel
  · apply hsubstitute .empty
    intro name _
    rfl

end Reckoner
