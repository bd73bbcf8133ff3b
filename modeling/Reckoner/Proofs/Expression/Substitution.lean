import Mathlib.Data.List.Induction
import Reckoner.Expression.Substitution
import Reckoner.Proofs.Expression.Names
import Reckoner.Proofs.Expression.Validity
import Reckoner.Proofs.Number.Spelling
import Reckoner.Proofs.Text.Replace

/-!
# Facts about substitution

Names consist of letters, so a substitution of either kind works on each run of letters apart from
the others and keeps what stands between them (`substitute_append_cons`). In particular it keeps the
symbols of operators and the parentheses, and what it puts in contains no parenthesis. Balance and
the distance between symbols are therefore inherited by the text from the result.
-/

namespace Reckoner

/-- A table is well named if its names are runs of letters. -/
def Bindings.IsWellNamed (b : Bindings) : Prop :=
  ∀ e ∈ b.entries, IsName e.1

instance : DecidablePred Bindings.IsWellNamed := fun b =>
  inferInstanceAs (Decidable (∀ e ∈ b.entries, IsName e.1))

/-- A value that is found is in the entry of its name. -/
theorem Bindings.mem_of_get? {b : Bindings} {name : Text} {v : Number}
    (h : b.get? name = some v) :
  (name, v) ∈ b.entries
  := by
  rw [get?, List.lookup_eq_some_iff] at h
  obtain ⟨before, after, hentries, -⟩ := h
  rw [hentries]
  apply List.mem_append_right _ List.mem_cons_self

/-- The value of an entry is found by its name, since no other entry has the name. -/
theorem Bindings.get?_of_mem {b : Bindings} {e : Text × Number} (h : e ∈ b.entries) :
  b.get? e.1 = some e.2
  := by
  obtain ⟨entries, hascending⟩ := b
  change entries.lookup e.1 = some e.2
  induction entries with
  | nil => cases h
  | cons first rest ih =>
    rw [List.pairwise_cons] at hascending
    rcases List.mem_cons.mp h with rfl | h
    · apply List.lookup_cons_self
    · have hne : (e.1 == first.1) = false := by
        rw [beq_eq_false_iff_ne]
        intro heq
        have hlt := hascending.1 e h
        rw [heq] at hlt
        apply List.lt_irrefl first.1 hlt
      rw [List.lookup_cons, hne]
      apply ih hascending.2 h

/-! ### Textual substitution -/

/-- The text after some names are replaced one after the other. -/
def replaceEach (entries : List (Text × Number)) (s : Text) : Text :=
  entries.foldl (fun t e => Text.replace e.1 e.2.spell t) s

theorem replaceEach_nil {entries : List (Text × Number)} (h : ∀ e ∈ entries, IsName e.1) :
  replaceEach entries [] = []
  := by
  induction entries with
  | nil => rfl
  | cons e entries ih =>
    rw [replaceEach, List.foldl_cons, Text.replace_nil (h e List.mem_cons_self).1]
    apply ih fun e' he' => h e' (List.mem_cons_of_mem e he')

/-- A character that is no letter keeps the replacements on its two sides apart. -/
theorem replaceEach_append_cons {entries : List (Text × Number)} (h : ∀ e ∈ entries, IsName e.1)
    {c : Char} (hc : isLetter c = false) (s t : Text) :
  replaceEach entries (s ++ c :: t) = replaceEach entries s ++ c :: replaceEach entries t
  := by
  induction entries generalizing s t with
  | nil => rfl
  | cons e entries ih =>
    have he := h e List.mem_cons_self
    rw [replaceEach, List.foldl_cons, Text.replace_append_cons he.1 (he.not_mem hc)]
    apply ih fun e' he' => h e' (List.mem_cons_of_mem e he')

theorem replaceEach_cons {entries : List (Text × Number)} (h : ∀ e ∈ entries, IsName e.1)
    {c : Char} (hc : isLetter c = false) (s : Text) :
  replaceEach entries (c :: s) = c :: replaceEach entries s
  := by
  have hnil := replaceEach_append_cons h hc [] s
  rw [replaceEach_nil h] at hnil
  apply hnil

/-- What does not start with a letter keeps the replacements on its two sides apart. -/
theorem replaceEach_append {entries : List (Text × Number)} (h : ∀ e ∈ entries, IsName e.1)
    (s : Text) {t : Text} (ht : ∀ c ∈ t.head?, isLetter c = false) :
  replaceEach entries (s ++ t) = replaceEach entries s ++ replaceEach entries t
  := by
  cases t with
  | nil => rw [List.append_nil, replaceEach_nil h, List.append_nil]
  | cons c t => rw [replaceEach_append_cons h (ht c rfl), replaceEach_cons h (ht c rfl)]

/-- The text of a finite number and a name have no characters in common. -/
theorem IsName.not_mem_of_mem_spell {name : Text} (h : IsName name) {v : Number} (hv : v.IsFinite) :
  ∀ c ∈ v.spell, c ∉ name
  := fun _ hc => h.not_mem (Number.isLetter_of_mem_spell hv hc)

/-- Replacements bring about no parts that have no characters of the values. -/
theorem infix_of_infix_replaceEach {entries : List (Text × Number)} {w s : Text}
    (h : ∀ e ∈ entries, ∀ c ∈ e.2.spell, c ∉ w) (hpart : w <:+: replaceEach entries s) :
  w <:+: s
  := by
  induction entries generalizing s with
  | nil => apply hpart
  | cons e entries ih =>
    rw [List.forall_mem_cons] at h
    apply Text.infix_of_infix_replace (Number.spell_ne_nil e.2) h.1
    apply ih h.2 hpart

/-- A replacement by a number keeps the parentheses. -/
theorem unclosed_replace {name : Text} (hname : IsName name) (v : Number) (s : Text) :
  unclosed (Text.replace name v.spell s) = unclosed s
  := by
  have hopens : unclosed name = 0 := unclosed_eq_zero fun c hc => opens_of_isLetter (hname.2 c hc)
  induction s using Text.replaceInduction hname.1 with
  | nil => rw [Text.replace_nil hname.1]
  | append s ih =>
    rw [Text.replace_append _ s hname.1, unclosed_append, unclosed_append, ih, hopens,
      Number.unclosed_spell]
  | cons c s hstarts ih => rw [Text.replace_cons _ hstarts, unclosed_cons, unclosed_cons, ih]

/-- Replacements by numbers keep the parentheses. -/
theorem unclosed_replaceEach {entries : List (Text × Number)} (h : ∀ e ∈ entries, IsName e.1)
    (s : Text) :
  unclosed (replaceEach entries s) = unclosed s
  := by
  induction entries generalizing s with
  | nil => rfl
  | cons e entries ih =>
    rw [replaceEach, List.foldl_cons, ← unclosed_replace (h e List.mem_cons_self) e.2 s]
    apply ih fun e' he' => h e' (List.mem_cons_of_mem e he')

/-! ### Substitution of tokens -/

/-- A token that is no name stays as it is. -/
theorem Token.substitute_of_name? {t : Token} (h : t.name? = none) (b : Bindings) :
  t.substitute b = t.spelling
  := by
  rw [substitute, h]
  rfl

/-- The substitution of tokens drops the blank characters. -/
theorem substituteTokens_cons_of_isBlank (b : Bindings) {c : Char} (h : isBlank c) (s : Text) :
  substituteTokens b (c :: s) = substituteTokens b s
  := by
  rw [substituteTokens, tokens_cons_of_isBlank h]
  rfl

/-- A character that is neither blank nor a letter is kept. -/
theorem substituteTokens_cons (b : Bindings) {c : Char} (hblank : isBlank c = false)
    (hletter : isLetter c = false) (s : Text) :
  substituteTokens b (c :: s) = c :: substituteTokens b s
  := by
  have hname := Token.name?_ofChar hletter
  rw [substituteTokens, substituteTokens]
  rcases tokens_cons hblank s with htokens | ⟨first, rest, joined, hs, hjoined, htokens⟩
  · rw [htokens, List.flatMap_cons, Token.substitute_of_name? hname, Token.spelling_ofChar]
    rfl
  · obtain ⟨hfirst, hjoinedName⟩ := Token.name?_append? hjoined hname
    rw [htokens, hs, List.flatMap_cons, List.flatMap_cons, Token.substitute_of_name? hfirst,
      Token.substitute_of_name? hjoinedName, Token.spelling_append? hjoined, Token.spelling_ofChar]
    rfl

/-- A run of letters that does not continue is substituted as one name. -/
theorem substituteTokens_append (b : Bindings) {run s : Text} (hrun : IsName run)
    (hs : ∀ c ∈ s.head?, isLetter c = false) :
  substituteTokens b (run ++ s) = Token.substitute b (.name run) ++ substituteTokens b s
  := by
  rw [substituteTokens, tokens_append (isSeam_of_isName hrun hs), tokens_name hrun]
  rfl

/-- A character that is no letter stays as it is, and the tokens on its two sides are substituted
separately. -/
theorem substituteTokens_append_cons (b : Bindings) {c : Char} (hblank : isBlank c = false)
    (hletter : isLetter c = false) (s t : Text) :
  substituteTokens b (s ++ c :: t) = substituteTokens b s ++ c :: substituteTokens b t
  := by
  induction s using Text.partInduction with
  | nil => apply substituteTokens_cons b hblank hletter
  | blank d s hd ih =>
    rw [List.cons_append, substituteTokens_cons_of_isBlank b hd,
      substituteTokens_cons_of_isBlank b hd, ih]
  | cons d s hdblank hd ih =>
    rw [List.cons_append, substituteTokens_cons b hdblank hd, substituteTokens_cons b hdblank hd,
      ih]
    rfl
  | run run s hrun hs ih =>
    rw [List.append_assoc, substituteTokens_append b hrun (isLetter_of_mem_head? hletter hs t),
      substituteTokens_append b hrun hs, ih, List.append_assoc]

theorem substituteTokens_numeric (b : Bindings) {s : Text} (h : ∀ c ∈ s, Number.isNumeric c) :
  substituteTokens b s = s
  := by
  by_cases hne : s = []
  · rw [hne]
    rfl
  · rw [substituteTokens, tokens_numeric hne h]
    apply List.flatMap_singleton

theorem substituteTokens_name (b : Bindings) {run : Text} (h : IsName run) :
  substituteTokens b run = Token.substitute b (.name run)
  := by
  rw [substituteTokens, tokens_name h]
  apply List.flatMap_singleton

/-- A name with a value is substituted by the text of the value. -/
theorem substitute_name_of_get? {b : Bindings} {name : Text} {v : Number}
    (h : b.get? name = some v) :
  Token.substitute b (.name name) = v.spell
  := by
  rw [Token.substitute, Token.name?, Option.bind_some, h]

/-- Neither a name nor what is put in its place has a parenthesis. -/
theorem unclosed_substitute_name (b : Bindings) {run : Text} (hrun : IsName run) :
  unclosed (Token.substitute b (.name run)) = 0
  := by
  rw [Token.substitute]
  split
  · apply Number.unclosed_spell
  · apply unclosed_eq_zero fun c hc => opens_of_isLetter (hrun.2 c hc)

/-- The substitution of tokens keeps the parentheses. -/
theorem unclosed_substituteTokens (b : Bindings) (s : Text) :
  unclosed (substituteTokens b s) = unclosed s
  := by
  induction s using Text.partInduction with
  | nil => rfl
  | blank c s hc ih =>
    rw [substituteTokens_cons_of_isBlank b hc, unclosed_cons, opens_of_isBlank hc, ih,
      Int.zero_add]
  | cons c s hblank hc ih =>
    rw [substituteTokens_cons b hblank hc, unclosed_cons, unclosed_cons, ih]
  | run run s hrun hs ih =>
    rw [substituteTokens_append b hrun hs, unclosed_append, unclosed_append, ih,
      unclosed_substitute_name b hrun, unclosed_eq_zero fun c hc => opens_of_isLetter (hrun.2 c hc)]

/-! ### Both kinds -/

section

variable {mode : Mode} {b : Bindings}

/-- A substitution on the two sides of a character that is neither blank nor a letter. -/
theorem substitute_append_cons (hb : b.IsWellNamed) {c : Char} (hblank : isBlank c = false)
    (hletter : isLetter c = false) (s t : Text) :
  substitute mode b (s ++ c :: t) = substitute mode b s ++ c :: substitute mode b t
  := by
  cases mode with
  | textual => apply replaceEach_append_cons hb hletter
  | token => apply substituteTokens_append_cons b hblank hletter

theorem substitute_nil (hb : b.IsWellNamed) :
  substitute mode b [] = []
  := by
  cases mode with
  | textual => apply replaceEach_nil hb
  | token => rfl

/-- Both ways to substitute keep a first character that is neither blank nor a letter. -/
theorem substitute_cons (hb : b.IsWellNamed) {c : Char} (hblank : isBlank c = false)
    (hletter : isLetter c = false) (s : Text) :
  substitute mode b (c :: s) = c :: substitute mode b s
  := by
  have hcons :
      substitute mode b ([] ++ c :: s) = substitute mode b [] ++ c :: substitute mode b s :=
    substitute_append_cons hb hblank hletter [] s
  rw [substitute_nil hb] at hcons
  apply hcons

/-- What starts neither with a blank character nor with a letter is substituted separately from what
is in front of it. -/
theorem substitute_append (hb : b.IsWellNamed) (s : Text) {t : Text}
    (ht : ∀ c ∈ t.head?, isBlank c = false ∧ isLetter c = false) :
  substitute mode b (s ++ t) = substitute mode b s ++ substitute mode b t
  := by
  cases t with
  | nil => rw [List.append_nil, substitute_nil hb, List.append_nil]
  | cons c t =>
    obtain ⟨hblank, hletter⟩ := ht c rfl
    rw [substitute_append_cons hb hblank hletter, substitute_cons hb hblank hletter]

/-- A substitution neither opens nor closes parentheses. -/
theorem unclosed_substitute (hb : b.IsWellNamed) (s : Text) :
  unclosed (substitute mode b s) = unclosed s
  := by
  cases mode with
  | textual => apply unclosed_replaceEach hb
  | token => apply unclosed_substituteTokens

theorem isLetter_of_opens {c : Char} (h : opens c ≠ 0) :
  isLetter c = false
  := by
  rw [Bool.eq_false_iff]
  intro hletter
  apply h (opens_of_isLetter hletter)

theorem isBlank_of_opens {c : Char} (h : opens c ≠ 0) :
  isBlank c = false
  := by
  rw [Bool.eq_false_iff]
  intro hblank
  apply h (opens_of_isBlank hblank)

/-- A text is balanced if the result of a substitution in it is. -/
theorem balanced_of_substitute (hb : b.IsWellNamed) {s : Text}
    (h : Balanced (substitute mode b s)) :
  Balanced s
  := by
  constructor
  · intro start hstart
    induction start using List.reverseRecOn with
    | nil => apply Int.le_refl
    | append_singleton start c ih =>
      have hle : start <+: s := (List.prefix_append start [c]).trans hstart
      by_cases hc : opens c = 0
      · rw [unclosed_append, unclosed_cons, hc]
        simpa using ih hle
      · obtain ⟨rest, rfl⟩ := hstart
        rw [List.append_assoc, List.singleton_append,
          substitute_append_cons hb (isBlank_of_opens hc) (isLetter_of_opens hc),
          List.append_cons] at h
        have hleft := h.unclosed_left
        rw [unclosed_append, unclosed_substitute hb] at hleft
        rw [unclosed_append]
        apply hleft
  · rw [← unclosed_substitute hb s]
    apply h.2

/-- The symbols of a text are apart if those of the result of a substitution in it are. -/
theorem symbolsApart_of_substitute (hb : b.IsWellNamed) {s : Text}
    (h : SymbolsApart (substitute mode b s)) :
  SymbolsApart s
  := by
  rintro left o o' right rfl
  apply h (substitute mode b left) o o' (substitute mode b right)
  rw [substitute_append_cons hb (isBlank_symbol o) (isLetter_symbol o),
    substitute_cons hb (isBlank_symbol o') (isLetter_symbol o')]

end

end Reckoner
