import Mathlib.Algebra.Order.BigOperators.Group.List
import Reckoner.Proofs.Evaluation.Values

/-!
# Collisions of names

The two modes of substitution differ when a name is replaced within a longer one that comes later in
the table. Such names collide. Without a collision each run of letters is left alone until its own
turn, and what is put in its place then contains no letters, so that the modes agree.

With a collision they disagree. To see that nothing makes good the damage, give each text a weight:
the number of points in it, and one more if it contains letters. A value is written with exactly one
point, so that no replacement lowers the weight of a text, and a replacement within a longer name
raises it from one to two. A result without letters then has more points than the one of the other
mode.
-/

namespace Reckoner

/-- Two names collide if the first is a proper part of the second and comes before it. -/
def Collide (k k' : Text) : Prop :=
  k <:+: k' ∧ k ≠ k' ∧ k < k'

instance : DecidableRel Collide := fun k k' =>
  inferInstanceAs (Decidable (k <:+: k' ∧ k ≠ k' ∧ k < k'))

/-- All values of a table are finite. -/
def Bindings.IsFinite (b : Bindings) : Prop :=
  ∀ name v, b.get? name = some v → v.IsFinite

/-- A table is finite if all its entries are. -/
theorem Bindings.isFinite_iff {b : Bindings} :
  b.IsFinite ↔ ∀ e ∈ b.entries, e.2.IsFinite
  := by
  constructor
  · intro h e he
    apply h e.1 e.2 (get?_of_mem he)
  · intro h name v hv
    apply h (name, v) (mem_of_get? hv)

/-! ### Without a collision -/

/-- Replacements of names that do not occur keep the text. -/
theorem replaceEach_eq_self {entries : List (Text × Number)} {s : Text}
    (hs : ∀ e ∈ entries, ¬e.1 <:+: s) :
  replaceEach entries s = s
  := by
  induction entries with
  | nil => rfl
  | cons e entries ih =>
    rw [List.forall_mem_cons] at hs
    rw [replaceEach, List.foldl_cons, Text.replace_eq_self _ hs.1]
    apply ih hs.2

/-- Replacements are made one list of entries after the other. -/
theorem replaceEach_append_entries (entries entries' : List (Text × Number)) (s : Text) :
  replaceEach (entries ++ entries') s = replaceEach entries' (replaceEach entries s)
  := List.foldl_append

/-- A name does not occur in a text without letters. -/
theorem IsName.not_part {name s : Text} (h : IsName name) (hs : ∀ c ∈ s, isLetter c = false) :
  ¬name <:+: s
  := by
  intro hpart
  obtain ⟨c, hc⟩ := List.exists_mem_of_ne_nil name h.1
  apply h.not_mem (hs c (hpart.subset hc)) hc

/-- The entries in front of an entry of a table have names that come before its name, and those
behind it have names that come after it. -/
theorem Bindings.exists_entries_eq {b : Bindings} {e : Text × Number} (he : e ∈ b.entries) :
  ∃ before after, b.entries = before ++ e :: after ∧ (∀ e' ∈ before, e'.1 < e.1)
    ∧ ∀ e' ∈ after, e.1 < e'.1
  := by
  obtain ⟨before, after, hentries⟩ := List.append_of_mem he
  have hascending := b.ascending
  rw [hentries, List.pairwise_append, List.pairwise_cons] at hascending
  use before, after, hentries
  constructor
  · intro e' he'
    apply hascending.2.2 e' he' e List.mem_cons_self
  · apply hascending.2.1.1

/-- A name with which no other collides is replaced by its value as a whole, and the value remains
unless a name that comes later occurs in its text. -/
theorem replaceEach_name {b : Bindings} (hb : b.IsWellNamed) {run : Text} {v : Number}
    (hv : b.get? run = some v) (hapart : ∀ e ∈ b.entries, ¬Collide e.1 run)
    (hspell : ∀ e ∈ b.entries, run < e.1 → ¬e.1 <:+: v.spell) :
  replaceEach b.entries run = v.spell
  := by
  have hrun : IsName run := hb _ (Bindings.mem_of_get? hv)
  obtain ⟨before, after, hentries, hlt, hgt⟩ :=
    Bindings.exists_entries_eq (Bindings.mem_of_get? hv)
  rw [hentries, List.forall_mem_append, List.forall_mem_cons] at hapart hspell
  have hbefore : replaceEach before run = run := by
    apply replaceEach_eq_self
    intro e he hpart
    apply hapart.1 e he ⟨hpart, _, hlt e he⟩
    apply ne_of_lt (hlt e he)
  have hafter : replaceEach after v.spell = v.spell := by
    apply replaceEach_eq_self
    intro e he
    apply hspell.2.2 e he (hgt e he)
  rw [hentries, replaceEach_append_entries, hbefore, replaceEach, List.foldl_cons,
    Text.replace_self hrun.1]
  apply hafter

/-- Without a collision the two modes agree on a text whose names all have finite values. -/
theorem replaceEach_eq_substituteTokens {b : Bindings} (hb : b.IsWellNamed) (hfinite : b.IsFinite)
    {s : Text} (hblank : ∀ c ∈ s, isBlank c = false)
    (hnames : ∀ name ∈ nameRuns s, (b.get? name).isSome)
    (hapart : ∀ name ∈ nameRuns s, ∀ e ∈ b.entries, ¬Collide e.1 name) :
  replaceEach b.entries s = substituteTokens b s
  := by
  induction s using Text.runInduction with
  | nil => apply replaceEach_nil hb
  | cons c s hc ih =>
    rw [nameRuns_cons hc] at hnames hapart
    rw [replaceEach_cons hb hc, substituteTokens_cons b (hblank c List.mem_cons_self) hc,
      ih (fun d hd => hblank d (List.mem_cons_of_mem c hd)) hnames hapart]
  | run run s hrun hs ih =>
    rw [nameRuns_append hrun hs, List.forall_mem_cons] at hnames hapart
    obtain ⟨v, hv⟩ := Option.isSome_iff_exists.mp hnames.1
    have hspell : ∀ e ∈ b.entries, run < e.1 → ¬e.1 <:+: v.spell := fun e he _ =>
      (hb e he).not_part fun c hc => Number.isLetter_of_mem_spell (hfinite run v hv) hc
    rw [replaceEach_append hb run hs, replaceEach_name hb hv hapart.1 hspell,
      substituteTokens_append b hrun hs, substitute_name_of_get? hv,
      ih (fun d hd => hblank d (List.mem_append_right run hd)) hnames.2 hapart.2]

/-! ### Weights -/

/-- The number of points in a text, and one more if it contains letters. -/
def weight (s : Text) : Nat :=
  s.count '.' + if s.any isLetter then 1 else 0

/-- The weight of a text without letters is the number of its points. -/
theorem weight_of_isLetter {s : Text} (h : ∀ c ∈ s, isLetter c = false) :
  weight s = s.count '.'
  := by
  have hany : s.any isLetter = false := by
    rw [List.any_eq_false]
    intro c hc
    rw [h c hc]
    apply Bool.false_ne_true
  rw [weight, hany]
  rfl

/-- The letters of a text make it heavier by one at most. -/
theorem weight_le (s : Text) :
  weight s ≤ s.count '.' + 1
  := by
  rw [weight]
  split
  · apply Nat.le_refl
  · apply Nat.le_succ

/-- The points of a part and the weight of the rest are both in the weight of the whole. -/
theorem count_add_weight_le (s t : Text) :
  s.count '.' + weight t ≤ weight (s ++ t)
  := by
  rw [weight, weight, List.count_append, List.any_append, Nat.add_assoc]
  apply Nat.add_le_add_left
  apply Nat.add_le_add_left
  cases s.any isLetter with
  | false => apply Nat.le_refl
  | true =>
    rw [Bool.true_or]
    split
    · apply Nat.le_refl
    · apply Nat.zero_le

theorem weight_add_count_le (s t : Text) :
  weight s + t.count '.' ≤ weight (s ++ t)
  := by
  rw [weight, weight, List.count_append, List.any_append, Nat.add_right_comm]
  apply Nat.add_le_add_left
  cases s.any isLetter with
  | false => apply Nat.zero_le
  | true => apply Nat.le_refl

theorem IsName.count_point {name : Text} (h : IsName name) :
  name.count '.' = 0
  := List.count_eq_zero.mpr (h.not_mem (isLetter_eq_false_of_lt (by decide)))

/-- The weight of a name is one, for its letters. -/
theorem IsName.weight_eq {name : Text} (h : IsName name) :
  weight name = 1
  := by
  obtain ⟨c, hc⟩ := List.exists_mem_of_ne_nil name h.1
  have hany : name.any isLetter := List.any_eq_true.mpr ⟨c, hc, h.2 c hc⟩
  rw [weight, hany, h.count_point]
  rfl

section

variable {name : Text} {v : Number}

/-- A replacement of a name keeps the points of a text. -/
theorem count_le_count_replace (hname : IsName name) (value s : Text) :
  s.count '.' ≤ (Text.replace name value s).count '.'
  := by
  induction s using Text.replaceInduction hname.1 with
  | nil => apply Nat.zero_le
  | append s ih =>
    rw [Text.replace_append value s hname.1, List.count_append, List.count_append,
      hname.count_point]
    omega
  | cons c s hstarts ih =>
    rw [Text.replace_cons value hstarts, List.count_cons, List.count_cons]
    omega

/-- A replacement by a finite value does not lower the weight. -/
theorem weight_le_weight_replace (hname : IsName name) (hv : v.IsFinite) (s : Text) :
  weight s ≤ weight (Text.replace name v.spell s)
  := by
  by_cases hpart : name <:+: s
  · obtain ⟨before, after, hs, hreplace⟩ := Text.exists_replace_eq hname.1 v.spell hpart
    have hafter := count_le_count_replace hname v.spell after
    calc
      weight s ≤ s.count '.' + 1 := weight_le s
      _ ≤ (Text.replace name v.spell s).count '.' := by
        rw [hreplace, hs]
        simp only [List.count_append, hname.count_point, Number.count_point_spell hv]
        omega
      _ ≤ weight (Text.replace name v.spell s) := Nat.le_add_right _ _
  · rw [Text.replace_eq_self _ hpart]

/-- What is in front of a value and what is behind it each add to the weight of the value. -/
theorem weight_lt_weight_append (hv : v.IsFinite) (s t : Text) :
  weight s < weight (s ++ v.spell ++ t) ∧ weight t < weight (s ++ v.spell ++ t)
  := by
  have hpoint := Number.count_point_spell hv
  constructor
  · calc
      weight s < weight s + (v.spell ++ t).count '.' := by
        rw [List.count_append]
        omega
      _ ≤ weight (s ++ (v.spell ++ t)) := weight_add_count_le _ _
      _ = weight (s ++ v.spell ++ t) := by rw [List.append_assoc]
  · calc
      weight t < (s ++ v.spell).count '.' + weight t := by
        rw [List.count_append]
        omega
      _ ≤ weight (s ++ v.spell ++ t) := count_add_weight_le _ _

/-- A replacement within a longer name raises the weight. -/
theorem two_le_weight_replace {run : Text} (hname : IsName name) (hv : v.IsFinite)
    (hrun : IsName run) (hpart : name <:+: run) (hne : name ≠ run) :
  2 ≤ weight (Text.replace name v.spell run)
  := by
  obtain ⟨before, after, hs, hreplace⟩ := Text.exists_replace_eq hname.1 v.spell hpart
  obtain ⟨hltBefore, hltAfter⟩ :=
    weight_lt_weight_append hv before (Text.replace name v.spell after)
  have hletter : ∀ c ∈ before ++ name ++ after, isLetter c := hs ▸ hrun.2
  rw [hreplace]
  by_cases hbefore : before = []
  · have hafter : IsName after := by
      constructor
      · rintro rfl
        apply hne
        rw [hs, hbefore, List.nil_append, List.append_nil]
      · intro c hc
        apply hletter c (List.mem_append_right _ hc)
    have hweight := weight_le_weight_replace hname hv after
    rw [hafter.weight_eq] at hweight
    apply Nat.lt_of_le_of_lt hweight hltAfter
  · have hname' : IsName before := by
      use hbefore
      intro c hc
      apply hletter c (List.mem_append_left _ (List.mem_append_left _ hc))
    rw [hname'.weight_eq] at hltBefore
    apply hltBefore

end

/-- Replacements by finite numbers do not make a text lighter. -/
theorem weight_le_weight_replaceEach {entries : List (Text × Number)}
    (h : ∀ e ∈ entries, IsName e.1 ∧ e.2.IsFinite) (s : Text) :
  weight s ≤ weight (replaceEach entries s)
  := by
  induction entries generalizing s with
  | nil => apply Nat.le_refl
  | cons e entries ih =>
    obtain ⟨hname, hfinite⟩ := h e List.mem_cons_self
    rw [replaceEach, List.foldl_cons]
    apply Nat.le_trans (weight_le_weight_replace hname hfinite s)
    apply ih fun e' he' => h e' (List.mem_cons_of_mem e he')

/-- Replacements of other names leave a name as it is or raise its weight. -/
theorem replaceEach_eq_or_two_le {entries : List (Text × Number)} {run : Text} (hrun : IsName run)
    (h : ∀ e ∈ entries, IsName e.1 ∧ e.2.IsFinite) (hne : ∀ e ∈ entries, e.1 ≠ run) :
  (∀ e ∈ entries, ¬e.1 <:+: run) ∨ 2 ≤ weight (replaceEach entries run)
  := by
  induction entries with
  | nil =>
    left
    intro e he
    cases he
  | cons e entries ih =>
    rw [List.forall_mem_cons] at h hne
    by_cases hpart : e.1 <:+: run
    · right
      rw [replaceEach, List.foldl_cons]
      apply Nat.le_trans (two_le_weight_replace h.1.1 h.1.2 hrun hpart hne.1)
      apply weight_le_weight_replaceEach h.2
    · rw [List.forall_mem_cons, replaceEach, List.foldl_cons, Text.replace_eq_self _ hpart]
      rcases ih h.2 hne.2 with hnone | htwo
      · left
        use hpart
      · right
        apply htwo

/-- A name with which another one collides ends up with a weight of two or more. -/
theorem two_le_weight_of_collide {b : Bindings} (hb : ∀ e ∈ b.entries, IsName e.1 ∧ e.2.IsFinite)
    {run : Text} (hrun : IsName run) {e : Text × Number} (he : e ∈ b.entries)
    (hcollide : Collide e.1 run) :
  2 ≤ weight (replaceEach b.entries run)
  := by
  obtain ⟨before, after, hentries, hlt, -⟩ := Bindings.exists_entries_eq he
  rw [hentries, List.append_cons] at hb ⊢
  rw [List.forall_mem_append] at hb
  have hne : ∀ e' ∈ before ++ [e], e'.1 ≠ run := by
    rw [List.forall_mem_append, List.forall_mem_singleton]
    constructor
    · intro e' he'
      apply ne_of_lt (Text.lt_trans (hlt e' he') hcollide.2.2)
    · apply hcollide.2.1
  have htwo : 2 ≤ weight (replaceEach (before ++ [e]) run) := by
    apply (replaceEach_eq_or_two_le hrun hb.1 hne).resolve_left
    intro hnone
    apply hnone e (List.mem_append_right _ List.mem_cons_self) hcollide.1
  rw [replaceEach_append_entries]
  apply Nat.le_trans htwo
  apply weight_le_weight_replaceEach hb.2

/-! ### Points in the two results -/

/-- The points in a result without letters are those of the text and the weights of what the names
have turned into. -/
theorem count_replaceEach {entries : List (Text × Number)} (h : ∀ e ∈ entries, IsName e.1)
    {s : Text} (hletter : ∀ c ∈ replaceEach entries s, isLetter c = false) :
  (replaceEach entries s).count '.'
    = s.count '.' + ((nameRuns s).map fun run => weight (replaceEach entries run)).sum
  := by
  induction s using Text.runInduction with
  | nil => rw [replaceEach_nil h, nameRuns_eq_nil_iff.mpr (by simp)]; rfl
  | cons c s hc ih =>
    rw [replaceEach_cons h hc] at hletter ⊢
    rw [nameRuns_cons hc, List.count_cons, List.count_cons,
      ih fun d hd => hletter d (List.mem_cons_of_mem c hd)]
    omega
  | run run s hrun hs ih =>
    rw [replaceEach_append h run hs] at hletter ⊢
    have hrunLetter := fun c hc => hletter c (List.mem_append_left _ hc)
    rw [nameRuns_append hrun hs, List.count_append, List.count_append, List.map_cons, List.sum_cons,
      ih fun c hc => hletter c (List.mem_append_right _ hc), weight_of_isLetter hrunLetter,
      hrun.count_point]
    omega

/-- No letter is left by a substitution of tokens in which every name has a finite value. -/
theorem isLetter_of_mem_substituteTokens {b : Bindings} (hfinite : b.IsFinite) {s : Text}
    (hnames : ∀ name ∈ nameRuns s, (b.get? name).isSome) :
  ∀ c ∈ substituteTokens b s, isLetter c = false
  := by
  induction s using Text.partInduction with
  | nil =>
    intro c hc
    cases hc
  | blank c s hc ih =>
    rw [nameRuns_cons (isLetter_of_isBlank hc)] at hnames
    rw [substituteTokens_cons_of_isBlank b hc]
    apply ih hnames
  | cons c s hblank hc ih =>
    rw [nameRuns_cons hc] at hnames
    rw [substituteTokens_cons b hblank hc, List.forall_mem_cons]
    use hc, ih hnames
  | run run s hrun hs ih =>
    rw [nameRuns_append hrun hs, List.forall_mem_cons] at hnames
    obtain ⟨v, hv⟩ := Option.isSome_iff_exists.mp hnames.1
    rw [substituteTokens_append b hrun hs, substitute_name_of_get? hv]
    intro c hc
    rcases List.mem_append.mp hc with hc | hc
    · apply Number.isLetter_of_mem_spell (hfinite run v hv) hc
    · apply ih hnames.2 c hc

/-- The points in the result of a substitution of tokens are those of the text and one for each
name. -/
theorem count_substituteTokens {b : Bindings} (hfinite : b.IsFinite) {s : Text}
    (hnames : ∀ name ∈ nameRuns s, (b.get? name).isSome) :
  (substituteTokens b s).count '.' = s.count '.' + ((nameRuns s).map fun _ => 1).sum
  := by
  induction s using Text.partInduction with
  | nil => rw [nameRuns_eq_nil_iff.mpr (by simp)]; rfl
  | blank c s hc ih =>
    have hne : c ≠ '.' := by
      rintro rfl
      cases hc
    rw [nameRuns_cons (isLetter_of_isBlank hc)] at hnames ⊢
    rw [substituteTokens_cons_of_isBlank b hc, ih hnames, List.count_cons_of_ne hne]
  | cons c s hblank hc ih =>
    rw [nameRuns_cons hc] at hnames ⊢
    rw [substituteTokens_cons b hblank hc, List.count_cons, List.count_cons, ih hnames]
    omega
  | run run s hrun hs ih =>
    rw [nameRuns_append hrun hs, List.forall_mem_cons] at hnames
    obtain ⟨v, hv⟩ := Option.isSome_iff_exists.mp hnames.1
    rw [nameRuns_append hrun hs, substituteTokens_append b hrun hs, substitute_name_of_get? hv,
      List.count_append, List.count_append, List.map_cons, List.sum_cons, ih hnames.2,
      Number.count_point_spell (hfinite run v hv), hrun.count_point]
    omega

/-- With a collision the two modes differ on a text whose names all have finite values. -/
theorem replaceEach_ne_substituteTokens {b : Bindings} (hb : b.IsWellNamed) (hfinite : b.IsFinite)
    {s : Text} (hnames : ∀ name ∈ nameRuns s, (b.get? name).isSome) {name : Text}
    (hname : name ∈ nameRuns s) {e : Text × Number} (he : e ∈ b.entries)
    (hcollide : Collide e.1 name) :
  replaceEach b.entries s ≠ substituteTokens b s
  := by
  intro heq
  have hb' : ∀ e ∈ b.entries, IsName e.1 ∧ e.2.IsFinite :=
    fun e he => ⟨hb e he, hfinite e.1 e.2 (Bindings.get?_of_mem he)⟩
  have hletter := isLetter_of_mem_substituteTokens hfinite hnames
  have hcount := count_substituteTokens hfinite hnames
  rw [← heq] at hletter hcount
  rw [count_replaceEach hb hletter] at hcount
  have hlt : ((nameRuns s).map fun _ => 1).sum
      < ((nameRuns s).map fun run => weight (replaceEach b.entries run)).sum := by
    apply List.sum_lt_sum
    · intro run hrun
      rw [← (isName_of_mem_nameRuns hrun).1.weight_eq]
      apply weight_le_weight_replaceEach hb'
    · use name, hname
      apply two_le_weight_of_collide hb' (isName_of_mem_nameRuns hname).1 he hcollide
  omega

end Reckoner
