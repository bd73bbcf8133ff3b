import Mathlib.Tactic.Common
import Reckoner.Text.Replace

/-!
# Facts about replacement

A replacement goes through a text in steps, from one occurrence of the name to the next:
`Text.replaceInduction` is induction along these steps. A character that is not in the name is kept
and the replacement on its left does not affect the one on its right, so that a text may be cut
there. At the first occurrence of the name a replacement puts in the value. If the name and the
value have no characters in common then the name does not occur in the result.
-/

namespace Reckoner

namespace Text

variable {name : Text} {c : Char}

/-- Induction on a text that takes each occurrence of a name as a whole. -/
@[elab_as_elim]
theorem replaceInduction {motive : Text → Prop} (hname : name ≠ []) (nil : motive [])
    (append : ∀ s, motive s → motive (name ++ s))
    (cons : ∀ c s, ¬name <+: c :: s → motive s → motive (c :: s)) (s : Text) :
  motive s
  := by
  induction hlength : s.length using Nat.strongRecOn generalizing s with
  | ind n ih =>
    by_cases hstarts : name <+: s
    · obtain ⟨rest, rfl⟩ := hstarts
      apply append
      apply ih rest.length _ rest rfl
      have hpos := List.length_pos_iff.mpr hname
      rw [List.length_append] at hlength
      omega
    · cases s with
      | nil => apply nil
      | cons c s =>
        apply cons c s hstarts
        apply ih s.length _ s rfl
        rw [← hlength]
        apply Nat.lt_succ_self

theorem replace_nil (hname : name ≠ []) (value : Text) :
  replace name value [] = []
  := by
  obtain ⟨d, rest, rfl⟩ := List.exists_cons_of_ne_nil hname
  rfl

/-- A text is an occurrence of itself. -/
theorem replace_self (hname : name ≠ []) (value : Text) :
  replace name value name = value
  := by
  have happend := replace_append value [] hname
  rw [replace_nil hname, List.append_nil, List.append_nil] at happend
  apply happend

/-- A text in which the name does not occur remains as it is. -/
theorem replace_eq_self {s : Text} (value : Text) (h : ¬name <:+: s) :
  replace name value s = s
  := by
  have hname : name ≠ [] := by
    rintro rfl
    apply h List.nil_infix
  induction s with
  | nil => apply replace_nil hname
  | cons c s ih =>
    rw [List.infix_cons_iff, not_or] at h
    rw [replace_cons value h.1, ih h.2]

/-- A replacement puts in the value at the first occurrence of the name and goes on behind it. -/
theorem exists_replace_eq {s : Text} (hname : name ≠ []) (value : Text) (h : name <:+: s) :
  ∃ before after, s = before ++ name ++ after
    ∧ replace name value s = before ++ value ++ replace name value after
  := by
  induction s using replaceInduction hname with
  | nil => cases hname (List.eq_nil_of_infix_nil h)
  | append s _ =>
    use [], s, rfl
    rw [replace_append value s hname]
    rfl
  | cons c s hstarts ih =>
    have hpart : name <:+: s := (List.infix_cons_iff.mp h).resolve_left hstarts
    obtain ⟨before, after, hs, hreplace⟩ := ih hpart
    use c :: before, after
    constructor
    · rw [hs]
      rfl
    · rw [replace_cons value hstarts, hreplace]
      rfl

/-- A beginning of a text that lacks a certain character ends in front of this character. -/
theorem prefix_of_prefix_append_cons {s t : Text} (hc : c ∉ name) (h : name <+: s ++ c :: t) :
  name <+: s
  := by
  obtain ⟨rest, hrest⟩ := h
  rcases List.append_eq_append_iff.mp hrest with ⟨u, rfl, -⟩ | ⟨u, rfl, hu⟩
  · apply List.prefix_append
  · rcases List.cons_eq_append_iff.mp hu with ⟨rfl, -⟩ | ⟨u', rfl, -⟩
    · simp
    · cases hc (List.mem_append_right s List.mem_cons_self)

/-- A replacement on the two sides of a character that is not in the name. -/
theorem replace_append_cons (hname : name ≠ []) (hc : c ∉ name) (value s t : Text) :
  replace name value (s ++ c :: t) = replace name value s ++ c :: replace name value t
  := by
  induction s using replaceInduction hname with
  | nil =>
    rw [replace_nil hname, List.nil_append, List.nil_append, replace_cons]
    intro hstarts
    apply hname (List.prefix_nil.mp (prefix_of_prefix_append_cons (s := []) hc hstarts))
  | append s ih =>
    rw [List.append_assoc, replace_append value _ hname, replace_append value s hname, ih,
      List.append_assoc]
  | cons d s hstarts ih =>
    rw [List.cons_append, replace_cons, replace_cons value hstarts, ih]
    · rfl
    · intro hstarts'
      apply hstarts (prefix_of_prefix_append_cons hc hstarts')

/-! ### Parts of a result -/

variable {value w s : Text}

/-- A part of two texts that has no character of the first is a part of the second. -/
theorem infix_of_infix_append {u t : Text} (hapart : ∀ c ∈ u, c ∉ w) (h : w <:+: u ++ t) :
  w <:+: t
  := by
  induction u with
  | nil => apply h
  | cons c u ih =>
    rw [List.forall_mem_cons] at hapart
    rcases List.infix_cons_iff.mp h with hprefix | hpart
    · rcases List.prefix_cons_iff.mp hprefix with rfl | ⟨w', rfl, -⟩
      · apply List.nil_infix
      · cases hapart.1 List.mem_cons_self
    · apply ih hapart.2 hpart

/-- What a result starts with, apart from the value, is what the text starts with. -/
theorem prefix_of_prefix_replace (hname : name ≠ []) (hvalue : value ≠ [])
    (hapart : ∀ c ∈ value, c ∉ w) (h : w <+: replace name value s) :
  w <+: s
  := by
  induction s using replaceInduction hname generalizing w with
  | nil =>
    rw [replace_nil hname] at h
    apply h
  | append s _ =>
    obtain ⟨d, rest, rfl⟩ := List.exists_cons_of_ne_nil hvalue
    rw [replace_append _ s hname] at h
    rcases List.prefix_cons_iff.mp h with rfl | ⟨w', rfl, -⟩
    · apply List.nil_prefix
    · cases hapart d List.mem_cons_self List.mem_cons_self
  | cons c s hstarts ih =>
    rw [replace_cons value hstarts] at h
    rcases List.prefix_cons_iff.mp h with rfl | ⟨w', rfl, hw'⟩
    · apply List.nil_prefix
    · rw [List.prefix_cons_inj]
      apply ih _ hw'
      intro d hd hmem
      apply hapart d hd (List.mem_cons_of_mem c hmem)

theorem prefix_intersperse (value s : Text) :
  value <+: intersperse value s
  := by
  cases s with
  | nil => apply List.prefix_rfl
  | cons c s => apply List.prefix_append

/-- A value between all characters of a text brings about no parts that have no characters of it. -/
theorem infix_of_infix_intersperse (hvalue : value ≠ []) (hapart : ∀ c ∈ value, c ∉ w)
    (h : w <:+: intersperse value s) :
  w <:+: s
  := by
  induction s with
  | nil =>
    rw [intersperse, ← List.append_nil value] at h
    apply infix_of_infix_append hapart h
  | cons c s ih =>
    rcases List.infix_cons_iff.mp (infix_of_infix_append hapart h) with hprefix | hpart
    · -- The value comes right behind `c`, so that a part at the start ends there.
      rcases List.prefix_cons_iff.mp hprefix with rfl | ⟨w', rfl, hw'⟩
      · apply List.nil_infix
      · obtain ⟨d, value, rfl⟩ := List.exists_cons_of_ne_nil hvalue
        obtain ⟨rest, hrest⟩ := prefix_intersperse (d :: value) s
        rw [← hrest] at hw'
        rcases List.prefix_cons_iff.mp hw' with rfl | ⟨w', rfl, -⟩
        · apply (List.prefix_append [c] s).isInfix
        · cases hapart d List.mem_cons_self (List.mem_cons_of_mem c List.mem_cons_self)
    · apply List.infix_cons (ih hpart)

/-- A replacement brings about no parts that have no characters of the value. -/
theorem infix_of_infix_replace (hvalue : value ≠ []) (hapart : ∀ c ∈ value, c ∉ w)
    (h : w <:+: replace name value s) :
  w <:+: s
  := by
  by_cases hname : name = []
  · rw [hname] at h
    apply infix_of_infix_intersperse hvalue hapart h
  · induction s using replaceInduction hname with
    | nil =>
      rw [replace_nil hname] at h
      apply h
    | append s ih =>
      rw [replace_append value s hname] at h
      apply (ih (infix_of_infix_append hapart h)).trans (List.suffix_append name s).isInfix
    | cons c s hstarts ih =>
      -- A part at the start reaches beyond `c`, so that `ih` says nothing about it.
      by_cases hprefix : w <+: replace name value (c :: s)
      · apply (prefix_of_prefix_replace hname hvalue hapart hprefix).isInfix
      · rw [replace_cons value hstarts] at h hprefix
        apply List.infix_cons (ih ((List.infix_cons_iff.mp h).resolve_left hprefix))

/-- After a replacement by a value that is apart from the name, the name does not occur. -/
theorem not_infix_replace (hname : name ≠ []) (hvalue : value ≠ [])
    (hapart : ∀ c ∈ value, c ∉ name) (s : Text) :
  ¬name <:+: replace name value s
  := by
  induction s using replaceInduction hname with
  | nil =>
    rw [replace_nil hname]
    apply mt List.eq_nil_of_infix_nil hname
  | append s ih =>
    rw [replace_append value s hname]
    apply mt (infix_of_infix_append hapart) ih
  | cons c s hstarts ih =>
    have hprefix := mt (prefix_of_prefix_replace hname hvalue hapart) hstarts
    rw [replace_cons value hstarts] at hprefix ⊢
    rw [List.infix_cons_iff]
    apply not_or_intro hprefix ih

end Text

end Reckoner
