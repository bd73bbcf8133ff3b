import Reckoner.Proofs.Expression.Partition

/-!
# The lexemes of two texts one after the other

Two texts one after the other have the lexemes of the first and then those of the second, moved on
by the length of the first, if and only if there is a seam between the texts
(`lexemes_append_iff`). Where there is no seam, the last lexeme of the first text and the first one
of the second are joined, and all others stay as they are (`exists_join_of_not_isSeam`).
-/

namespace Reckoner

variable {s t before after : Text} {a b : Char}

/-! ### Akin characters -/

/-- A character that is akin to another one is not blank. -/
theorem Akin.isBlank_left (h : Akin a b) :
  isBlank a = false
  := by
  obtain ⟨ha, -⟩ | ⟨ha, -⟩ := h
  · apply isBlank_of_isLetter ha
  · apply isBlank_of_isNumeric ha

/-- Two whole tokens with akin characters are joined, and the token of both takes in what each of
them takes in. -/
theorem Token.IsWhole.exists_append? {t u : Token} (ht : t.IsWhole) (hu : u.IsWhole)
    (ha : a ∈ t.spelling) (hb : b ∈ u.spelling) (h : Akin a b) :
  ∃ joined, t.append? u = some joined ∧ joined.IsWhole ∧ joined.TakesIn = t.TakesIn
    ∧ joined.TakesIn = u.TakesIn
  := by
  have htb : t.TakesIn b := (ht.akin_iff ha).mp h
  have hua : u.TakesIn a := (hu.akin_iff hb).mp (akin_comm.mp h)
  obtain ⟨s, rfl, hne, hs⟩ | ⟨s, rfl, hs⟩ | ⟨c, -, -, -, -, -, hnone⟩ := ht.cases
  · cases u with
    | number s' =>
      use .number (s ++ s'), rfl
      refine ⟨⟨List.append_ne_nil_of_left_ne_nil hne s', ?_⟩, rfl, rfl⟩
      apply List.forall_mem_append.mpr ⟨hs, hu.2⟩
    | name s' => cases (isNumeric_of_isLetter hua).symm.trans (hs a ha)
    | _ => cases hua
  · cases u with
    | name s' =>
      use .name (s ++ s'), rfl
      refine ⟨⟨List.append_ne_nil_of_left_ne_nil hs.1 s', ?_⟩, rfl, rfl⟩
      apply List.forall_mem_append.mpr ⟨hs.2, hu.2⟩
    | number s' => cases (isLetter_of_isNumeric hua).symm.trans (hs.2 a ha)
    | _ => cases hua
  · cases hnone b htb

/-! ### The ends of a text -/

namespace Lexeme

/-- A text that starts with a character that is not blank starts with the lexeme of the
character. -/
theorem exists_isPart_of_head? (ha : a ∈ s.head?) (h : isBlank a = false) :
  ∃ l after, IsPart l s [] after ∧ a ∈ l.token.spelling
  := by
  obtain ⟨s, rfl⟩ := List.head?_eq_some_iff.mp ha
  obtain ⟨t, rest, hs, ht, hseam⟩ := exists_isWhole h s
  use ⟨t, 0, t.spelling.utf8Length⟩, rest
  constructor
  · constructor
    · apply hs
    · rfl
    · rfl
    · apply ht
    · intro c hc
      cases hc
    · apply ht.isSeam_iff.mp hseam
  · rw [hs, List.head?_append_of_ne_nil _ ht.spelling_ne_nil] at ha
    apply List.mem_of_mem_head? ha

/-- A text that ends with a character that is not blank ends with the lexeme of the character: what
covers the character leaves no room for others behind it. -/
theorem exists_isPart_of_getLast? (ha : a ∈ s.getLast?) (h : isBlank a = false) :
  ∃ l before, IsPart l s before [] ∧ a ∈ l.token.spelling
  := by
  obtain ⟨front, hs⟩ := List.getLast?_eq_some_iff.mp ha
  have hpartition := isPartition_lexemes s
  obtain ⟨l, hl, -, hstop⟩ := (hpartition.covers_iff front a [] hs).mpr h
  obtain ⟨before, after, hpart⟩ := hpartition.exists_isPart l hl
  have hafter : after = [] := by
    obtain ⟨u, hu⟩ | ⟨u, rfl, -⟩ := append_eq_append_cons (hpart.text_eq.symm.trans hs)
    · have hfront : front ++ [a] = front ++ a :: (u ++ after) := by
        rw [← hs, hpart.text_eq, hu, List.append_assoc, List.cons_append]
      have hrest := (List.cons.inj (List.append_cancel_left hfront)).2
      apply (List.append_eq_nil_iff.mp hrest.symm).2
    · -- The lexeme would stop in front of the character that it covers.
      rw [hpart.stop_eq, Text.utf8Length_append _ u] at hstop
      omega
  subst hafter
  use l, before, hpart
  rw [hpart.text_eq, List.append_nil,
    List.getLast?_append_of_ne_nil _ hpart.isWhole.spelling_ne_nil] at ha
  apply List.mem_of_mem_getLast? ha

/-- A lexeme at the end of a text and one at the start of another are joined if they have akin
characters, and what they are joined to is a part of the two texts one after the other. -/
theorem IsPart.exists_join? {l m : Lexeme} (hl : l.IsPart s before []) (hm : m.IsPart t [] after)
    (ha : a ∈ l.token.spelling) (hb : b ∈ m.token.spelling) (h : Akin a b) :
  ∃ joined, l.join? (m.shift s.utf8Length) = some joined ∧ joined.IsPart (s ++ t) before after
    ∧ joined.stop = m.stop + s.utf8Length
  := by
  obtain ⟨u, hu, hwhole, hleft, hright⟩ := hl.isWhole.exists_append? hm.isWhole ha hb h
  have hspelling := Token.spelling_append? hu
  have hs : s = before ++ l.token.spelling := by
    rw [hl.text_eq, List.append_nil]
  have ht : t = m.token.spelling ++ after := hm.text_eq
  use ⟨u, l.start, m.stop + s.utf8Length⟩
  refine ⟨join?_eq_some_iff.mpr ⟨?_, u, hu, rfl⟩, ?_, rfl⟩
  · rw [hl.stop_eq, ← hs, shift, hm.start_eq, Text.utf8Length_nil, Nat.zero_add]
  · constructor
    · simp only [hspelling, hs, ht, List.append_assoc]
    · apply hl.start_eq
    · simp only [hm.stop_eq, hspelling, hs, List.nil_append, Text.utf8Length_append]
      omega
    · apply hwhole
    · rw [hleft]
      apply hl.maximal_left
    · rw [hright]
      apply hm.maximal_right

end Lexeme

/-! ### Two texts -/

/-- Where there is no seam between two texts, the last lexeme of the first and the first one of the
second are joined, and all others stay as they are. -/
theorem exists_join_of_not_isSeam (h : ¬IsSeam s t) :
  ∃ front last first back joined, lexemes s = front ++ [last]
    ∧ (lexemes t).map (Lexeme.shift s.utf8Length) = first :: back
    ∧ last.join? first = some joined ∧ lexemes (s ++ t) = front ++ joined :: back
  := by
  simp only [IsSeam, not_forall, not_not] at h
  obtain ⟨a, ha, b, hb, hakin⟩ := h
  obtain ⟨l, before, hl, hal⟩ := Lexeme.exists_isPart_of_getLast? ha hakin.isBlank_left
  obtain ⟨m, after, hm, hbm⟩ := Lexeme.exists_isPart_of_head? hb (akin_comm.mp hakin).isBlank_left
  obtain ⟨joined, hjoin, hjoined, hstop⟩ := hl.exists_join? hm hal hbm hakin
  use lexemes before, l, m.shift s.utf8Length, lexemesFrom joined.stop after, joined
  refine ⟨hl.lexemes_eq, ?_, hjoin, hjoined.lexemes_eq⟩
  rw [hm.lexemes_eq, hstop, lexemesFrom_add]
  rfl

/-- A name goes on behind the seam. Its letters are of two bytes. -/
example :
  lexemes (['2', 'é'] ++ ['é', '%'])
    = [⟨.number ['2'], 0, 1⟩, ⟨.name ['é', 'é'], 1, 5⟩, ⟨.other '%', 5, 6⟩]
  := by decide +kernel

/-- The lexemes of two texts one after the other are those of the first and then those of the
second, moved on by the length of the first, if and only if there is a seam between the texts:
otherwise there is one lexeme less. -/
theorem lexemes_append_iff (s t : Text) :
  lexemes (s ++ t) = lexemes s ++ (lexemes t).map (Lexeme.shift s.utf8Length) ↔ IsSeam s t
  := by
  constructor
  · intro h
    by_contra hseam
    obtain ⟨front, last, first, back, joined, hs, ht, -, hst⟩ := exists_join_of_not_isSeam hseam
    have hlength := congrArg List.length h
    rw [hst, hs, ht] at hlength
    simp only [List.length_append, List.length_cons, List.length_nil] at hlength
    omega
  · intro h
    rw [lexemes, lexemesFrom_append h, Nat.zero_add, lexemesFrom_eq_map_shift s.utf8Length]
    rfl

end Reckoner
