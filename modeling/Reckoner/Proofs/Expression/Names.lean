import Reckoner.Expression.Variables
import Reckoner.Proofs.Expression.Tokens

/-!
# The names in a text

`nameRuns` lists the names of a text with repetitions. They are its runs of letters, and they are
found on the two sides of any other character separately. Blank characters count only where they
separate two letters: a text in which they do not has the same names as the text without them
(`nameRuns_strip`).
-/

namespace Reckoner

/-! ### Occurrences -/

/-- The names that occur in a text, one for each occurrence. -/
def nameRuns (s : Text) : List Text :=
  (tokens s).filterMap Token.name?

theorem Token.name?_eq_some_iff {t : Token} {name : Text} :
  t.name? = some name ↔ t = .name name
  := by
  cases t <;> simp [Token.name?]

/-- The names that occur in a text are its names. -/
theorem mem_nameRuns {name s : Text} :
  name ∈ nameRuns s ↔ name ∈ variableNames s
  := by
  rw [mem_variableNames, nameRuns, List.mem_filterMap]
  simp only [Token.name?_eq_some_iff, exists_eq_right]

theorem Token.name?_ofChar {c : Char} (h : isLetter c = false) :
  (ofChar c).name? = none
  := by
  rw [Option.eq_none_iff_forall_ne_some]
  intro name hname
  apply Bool.eq_false_iff.mp h (isLetter_of_ofChar (name?_eq_some_iff.mp hname))

/-- A token that is no name is joined only with one that is none, and the two do not become one. -/
theorem Token.name?_append? {a b joined : Token} (h : a.append? b = some joined)
    (ha : a.name? = none) :
  b.name? = none ∧ joined.name? = none
  := by
  rcases append?_eq_some_iff.mp h with ⟨s, t, rfl, rfl, rfl⟩ | ⟨s, t, rfl, rfl, rfl⟩
  · exact ⟨rfl, rfl⟩
  · cases ha

theorem nameRuns_cons {c : Char} (h : isLetter c = false) (s : Text) :
  nameRuns (c :: s) = nameRuns s
  := by
  rw [nameRuns, nameRuns]
  by_cases hblank : isBlank c
  · rw [tokens_cons_of_isBlank hblank]
  · rw [Bool.not_eq_true] at hblank
    have hname := Token.name?_ofChar h
    rcases tokens_cons hblank s with htokens | ⟨first, rest, joined, hs, hjoined, htokens⟩
    · rw [htokens, List.filterMap_cons_none hname]
    · obtain ⟨hfirst, hjoinedName⟩ := Token.name?_append? hjoined hname
      rw [htokens, hs, List.filterMap_cons_none hfirst, List.filterMap_cons_none hjoinedName]

/-- A run of letters that does not continue is the first name of a text. -/
theorem nameRuns_append {run s : Text} (hrun : IsName run)
    (hs : ∀ c ∈ s.head?, isLetter c = false) :
  nameRuns (run ++ s) = run :: nameRuns s
  := by
  rw [nameRuns, tokens_append (isSeam_of_isName hrun hs), tokens_name hrun]
  rfl

/-- The names of a text are runs of letters in it. -/
theorem isName_of_mem_nameRuns {name s : Text} (h : name ∈ nameRuns s) :
  IsName name ∧ name <:+: s
  := by
  induction s using Text.runInduction with
  | nil => cases h
  | cons c s hc ih =>
    rw [nameRuns_cons hc] at h
    exact ⟨(ih h).1, List.infix_cons (ih h).2⟩
  | run run s hrun hs ih =>
    rw [nameRuns_append hrun hs] at h
    rcases List.mem_cons.mp h with rfl | h
    · exact ⟨hrun, (List.prefix_append name s).isInfix⟩
    · exact ⟨(ih h).1, (ih h).2.trans (List.suffix_append run s).isInfix⟩

/-- A text has no names if and only if it has no letters. -/
theorem nameRuns_eq_nil_iff {s : Text} :
  nameRuns s = [] ↔ ∀ c ∈ s, isLetter c = false
  := by
  induction s using Text.runInduction with
  | nil => simp [nameRuns, tokens, lexemes, lexemesFrom]
  | cons c s hc ih => rw [nameRuns_cons hc, ih, List.forall_mem_cons, and_iff_right hc]
  | run run s hrun hs ih =>
    rw [nameRuns_append hrun hs, iff_false_left (List.cons_ne_nil _ _)]
    intro h
    obtain ⟨c, hc⟩ := List.exists_mem_of_ne_nil run hrun.1
    have hletter := hrun.2 c hc
    rw [h c (List.mem_append_left s hc)] at hletter
    cases hletter

/-- The names on the two sides of a character that is no letter. -/
theorem nameRuns_append_cons {c : Char} (hc : isLetter c = false) (s t : Text) :
  nameRuns (s ++ c :: t) = nameRuns s ++ nameRuns t
  := by
  induction s using Text.runInduction with
  | nil => apply nameRuns_cons hc
  | cons d s hd ih => rw [List.cons_append, nameRuns_cons hd, nameRuns_cons hd, ih]
  | run run s hrun hs ih =>
    rw [List.append_assoc, nameRuns_append hrun (isLetter_of_mem_head? hc hs t),
      nameRuns_append hrun hs, ih, List.cons_append]

/-! ### Blank characters between letters -/

/-- No blank characters stand directly between two letters. -/
def LettersTogether (s : Text) : Prop :=
  ∀ left a gap b right, s = left ++ a :: gap ++ b :: right → isLetter a → isLetter b →
    (∀ c ∈ gap, isBlank c) → gap = []

/-- The end of a text has its letters together if the text has. -/
theorem LettersTogether.of_append {s t : Text} (h : LettersTogether (s ++ t)) :
  LettersTogether t
  := by
  rintro left a gap b right rfl
  apply h (s ++ left) a gap b right
  simp

/-- A stripped text has its letters together. -/
theorem lettersTogether_of_strip {s : Text} (h : s.strip = s) :
  LettersTogether s
  := by
  rintro left a gap b right rfl _ _ hgap
  rw [Text.strip_eq_self_iff] at h
  rw [List.eq_nil_iff_forall_not_mem]
  intro c hc
  have hblank := h c (by simp [hc])
  rw [hgap c hc] at hblank
  cases hblank

/-- There is no gap between letters in a text with one letter at most. -/
theorem lettersTogether_of_countP_le_one {s : Text} (h : s.countP isLetter ≤ 1) :
  LettersTogether s
  := by
  rintro left a gap b right rfl ha hb -
  simp only [List.countP_append, List.countP_cons_of_pos ha, List.countP_cons_of_pos hb] at h
  omega

theorem isBlank_of_mem_strip {s : Text} :
  ∀ c ∈ s.strip, isBlank c = false
  := fun _ hc => (Text.mem_strip.mp hc).2

/-- In front of the first character of a stripped text only blank ones have been dropped. -/
theorem exists_of_head?_strip {c : Char} {s : Text} (h : c ∈ s.strip.head?) :
  ∃ gap rest, s = gap ++ c :: rest ∧ ∀ d ∈ gap, isBlank d
  := by
  obtain ⟨rest, hrest⟩ := List.head?_eq_some_iff.mp h
  obtain ⟨gap, rest', hs, hgap, -⟩ := List.filter_eq_cons_iff.mp hrest
  refine ⟨gap, rest', hs, ?_⟩
  intro d hd
  simpa using hgap d hd

theorem IsName.strip_eq {run : Text} (h : IsName run) :
  run.strip = run
  := Text.strip_eq_self_iff.mpr fun c hc => isBlank_of_isLetter (h.2 c hc)

/-- Blank characters that do not separate two letters do not count for the names. -/
theorem nameRuns_strip {s : Text} (h : LettersTogether s) :
  nameRuns s.strip = nameRuns s
  := by
  induction s using Text.runInduction with
  | nil => rfl
  | cons c s hc ih =>
    have hs : LettersTogether s := LettersTogether.of_append (s := [c]) h
    rw [nameRuns_cons hc, ← ih hs, ← List.singleton_append, Text.strip_append]
    by_cases hblank : isBlank c
    · simp [Text.strip, hblank]
    · simp [Text.strip, hblank, nameRuns_cons hc]
  | run run s hrun hs ih =>
    have hapart : ∀ c ∈ s.strip.head?, isLetter c = false := by
      intro c hc
      obtain ⟨gap, rest, rfl, hgap⟩ := exists_of_head?_strip hc
      rw [Bool.eq_false_iff]
      intro hletter
      obtain ⟨init, last, rfl⟩ : ∃ init last, run = init ++ [last] :=
        ⟨_, _, (List.dropLast_concat_getLast hrun.1).symm⟩
      have hlast := hrun.2 last (List.mem_append_right _ List.mem_cons_self)
      have hempty : gap = [] := h init last gap c rest (by simp) hlast hletter hgap
      subst hempty
      rw [hs c rfl] at hletter
      cases hletter
    rw [Text.strip_append, hrun.strip_eq, nameRuns_append hrun hs, nameRuns_append hrun hapart,
      ih h.of_append]

end Reckoner
