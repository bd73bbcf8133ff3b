import Reckoner.Formula
import Reckoner.Proofs.Evaluation.Precedence
import Reckoner.Proofs.Expression.Substitution

/-!
# Names that matter

A formula meets a name when a value of the name would be put into the expression. In token mode
these are the names of the expression; in textual mode they are the names that occur in what the
names before them have left of it, whether they have a value or not. The value of a formula depends
on the values of the names that it meets and on nothing else in the table
(`substitute_eq_of_meets`).

In textual mode a formula can meet names that do not occur in its expression at all, because a value
that is put in may contain them. This cannot happen if the values have no characters in common with
the name (`not_meets`).
-/

namespace Reckoner

variable {entries entries' rest rest' : List (Text × Number)} {e : Text × Number}
  {name other s t : Text} {b b' : Bindings} {mode : Mode} {f : Formula}

/-! ### The turn of a name -/

/-- What the entries in front of a name leave of a text. -/
def textBefore (entries : List (Text × Number)) (s name : Text) : Text :=
  replaceEach (entries.filter fun e => e.1 < name) s

/-- Entries of which none comes before a name leave the text in front of the name as it is. -/
theorem textBefore_eq_self (h : ∀ e ∈ entries, ¬e.1 < name) :
  textBefore entries s name = s
  := by
  have hnil : (entries.filter fun e => e.1 < name) = [] := by
    rw [List.filter_eq_nil_iff]
    intro e he hlt
    apply h e he (of_decide_eq_true hlt)
  rw [textBefore, hnil]
  rfl

/-- An entry that comes before a name is replaced in the text in front of the name. -/
theorem textBefore_cons (h : e.1 < name) :
  textBefore (e :: entries) s name = textBefore entries (Text.replace e.1 e.2.spell s) name
  := by
  simp only [textBefore, List.filter_cons, h, decide_true, if_true]
  rfl

/-- Entries that are all behind a name have no value for a name that is not behind it. -/
theorem lookup_eq_none (h : ∀ e ∈ entries, name < e.1) (hother : ¬name < other) :
  entries.lookup other = none
  := by
  rw [List.lookup_eq_none_iff]
  intro e he
  rw [bne_iff_ne]
  rintro rfl
  apply hother (h e he)

theorem lookup_cons_of_lt (h : e.1 < name) :
  (e :: entries).lookup name = entries.lookup name
  := by
  have hne : (name == e.1) = false := by
    rw [beq_eq_false_iff_ne]
    rintro rfl
    apply List.lt_irrefl _ h
  rw [List.lookup_cons, hne]

theorem forall_mem_cons_lt (h : name < e.1) (hrest : ∀ e' ∈ rest, e.1 < e'.1) :
  ∀ e' ∈ e :: rest, name < e'.1
  := by
  rw [List.forall_mem_cons]
  use h
  intro e' he'
  apply Text.lt_trans h (hrest e' he')

theorem forall_mem_cons_not_lt (hrest : ∀ e' ∈ rest, e.1 < e'.1) :
  ∀ e' ∈ e :: rest, ¬e'.1 < e.1
  := by
  rw [List.forall_mem_cons]
  use List.lt_irrefl _
  intro e' he'
  apply List.lt_asymm (hrest e' he')

/-! ### Entries that concur -/

/-- Two lists of entries concur on a text if they have the same value, or none, for each name that
occurs in what the entries of the first list in front of the name leave of the text. -/
def Concur (s : Text) (entries entries' : List (Text × Number)) : Prop :=
  ∀ name, name <:+: textBefore entries s name → entries.lookup name = entries'.lookup name

namespace Concur

/-- Lists that concur do so behind a name as well. -/
theorem behind (h : Concur s entries entries') (hrest : ∀ e ∈ rest, name < e.1)
    (hrest' : ∀ e ∈ rest', name < e.1)
    (htext : ∀ other, name < other → textBefore rest t other = textBefore entries s other)
    (hvalue : ∀ other, name < other → entries.lookup other = rest.lookup other)
    (hvalue' : ∀ other, name < other → entries'.lookup other = rest'.lookup other) :
  Concur t rest rest'
  := by
  intro other hother
  by_cases hlt : name < other
  · rw [htext other hlt] at hother
    rw [← hvalue other hlt, ← hvalue' other hlt, h other hother]
  · rw [lookup_eq_none hrest hlt, lookup_eq_none hrest' hlt]

/-- A name that only one of the lists gives a value to does not occur when its turn comes. -/
theorem replace_eq_self (h : Concur s entries entries') (hentries : ∀ e ∈ entries, ¬e.1 < name)
    (hvalue : entries.lookup name ≠ entries'.lookup name) (value : Text) :
  Text.replace name value s = s
  := by
  apply Text.replace_eq_self
  intro hpart
  apply hvalue (h name _)
  rw [textBefore_eq_self hentries]
  apply hpart

/-- The first entry of the first list is of no use if its name comes before all names of the
second list. -/
theorem skip_left (h : Concur s (e :: rest) entries') (hrest : ∀ e' ∈ rest, e.1 < e'.1)
    (hentries' : ∀ e' ∈ entries', e.1 < e'.1) :
  Text.replace e.1 e.2.spell s = s ∧ Concur s rest entries'
  := by
  have hreplace : Text.replace e.1 e.2.spell s = s := by
    apply h.replace_eq_self (forall_mem_cons_not_lt hrest)
    rw [List.lookup_cons_self, lookup_eq_none hentries' (List.lt_irrefl _)]
    apply Option.some_ne_none
  use hreplace
  apply h.behind hrest hentries' _ (fun _ => lookup_cons_of_lt) fun _ _ => rfl
  intro other hlt
  rw [textBefore_cons hlt, hreplace]

/-- The first entry of the second list is of no use if its name comes before all names of the
first list. -/
theorem skip_right (h : Concur s entries (e :: rest')) (hentries : ∀ e' ∈ entries, e.1 < e'.1)
    (hrest' : ∀ e' ∈ rest', e.1 < e'.1) :
  Text.replace e.1 e.2.spell s = s ∧ Concur s entries rest'
  := by
  constructor
  · apply h.replace_eq_self
    · intro e' he'
      apply List.lt_asymm (hentries e' he')
    · rw [List.lookup_cons_self, lookup_eq_none hentries (List.lt_irrefl _)]
      apply (Option.some_ne_none _).symm
  · apply h.behind hentries hrest' (fun _ _ => rfl) (fun _ _ => rfl) fun _ => lookup_cons_of_lt

/-- First entries with the same name have the same effect. -/
theorem step {v v' : Number} (h : Concur s ((name, v) :: rest) ((name, v') :: rest'))
    (hrest : ∀ e ∈ rest, name < e.1) (hrest' : ∀ e ∈ rest', name < e.1) :
  Text.replace name v.spell s = Text.replace name v'.spell s
    ∧ Concur (Text.replace name v'.spell s) rest rest'
  := by
  have hreplace : Text.replace name v.spell s = Text.replace name v'.spell s := by
    by_cases heq : v = v'
    · rw [heq]
    · have hlt : ∀ e ∈ (name, v) :: rest, ¬e.1 < name := forall_mem_cons_not_lt hrest
      have hvalue : ((name, v) :: rest).lookup name ≠ ((name, v') :: rest').lookup name := by
        rw [List.lookup_cons_self, List.lookup_cons_self]
        apply mt Option.some.inj heq
      rw [h.replace_eq_self hlt hvalue, h.replace_eq_self hlt hvalue]
  use hreplace
  apply h.behind hrest hrest' _ (fun _ => lookup_cons_of_lt (e := (name, v)))
    fun _ => lookup_cons_of_lt (e := (name, v'))
  intro other hlt
  rw [textBefore_cons hlt, hreplace]

/-- Lists in ascending order that concur on a text have the same effect on it. -/
theorem replaceEach_eq (h : Concur s entries entries')
    (hentries : entries.Pairwise fun a b => a.1 < b.1)
    (hentries' : entries'.Pairwise fun a b => a.1 < b.1) :
  replaceEach entries s = replaceEach entries' s
  := by
  -- The names of both lists are gone through in their order, as in a merge.
  induction entries generalizing s entries' with
  | nil =>
    induction entries' with
    | nil => rfl
    | cons e' rest' ih' =>
      rw [List.pairwise_cons] at hentries'
      obtain ⟨hreplace, hrest⟩ := h.skip_right (List.forall_mem_nil _) hentries'.1
      rw [ih' hrest hentries'.2, replaceEach, replaceEach, List.foldl_cons, hreplace]
  | cons e rest ih =>
    have hrest := List.pairwise_cons.mp hentries
    induction entries' with
    | nil =>
      obtain ⟨hreplace, hnil⟩ := h.skip_left hrest.1 (List.forall_mem_nil _)
      rw [← ih hnil hrest.2 .nil, replaceEach, replaceEach, List.foldl_cons, hreplace]
    | cons e' rest' ih' =>
      have hrest' := List.pairwise_cons.mp hentries'
      by_cases hlt : e.1 < e'.1
      · obtain ⟨hreplace, hskip⟩ := h.skip_left hrest.1 (forall_mem_cons_lt hlt hrest'.1)
        rw [← ih hskip hrest.2 hentries', replaceEach, replaceEach, List.foldl_cons, hreplace]
      · by_cases heq : e.1 = e'.1
        · obtain ⟨name, v⟩ := e
          obtain ⟨name', v'⟩ := e'
          obtain rfl : name = name' := heq
          obtain ⟨hreplace, hstep⟩ := h.step hrest.1 hrest'.1
          rw [replaceEach, List.foldl_cons, hreplace]
          apply ih hstep hrest.2 hrest'.2
        · have hgt := Text.lt_of_not_lt hlt heq
          obtain ⟨hreplace, hskip⟩ := h.skip_right (forall_mem_cons_lt hgt hrest.1) hrest'.1
          rw [ih' hskip hrest'.2, replaceEach, replaceEach, List.foldl_cons, hreplace]

end Concur

/-! ### The names that a formula meets -/

/-- A substitution meets a name if it would put a value of the name into the text: the name is one
of the text, or, in textual mode, occurs in what the names before it leave of the text. -/
def Meets (mode : Mode) (b : Bindings) (s name : Text) : Prop :=
  match mode with
  | .textual => name <:+: textBefore b.entries s name
  | .token => name ∈ variableNames s

instance : (mode : Mode) → Decidable (Meets mode b s name)
  | .textual => inferInstanceAs (Decidable (name <:+: textBefore b.entries s name))
  | .token => inferInstanceAs (Decidable (name ∈ variableNames s))

/-- A formula meets the names that its substitution meets. -/
def Formula.Meets (f : Formula) (name : Text) : Prop :=
  Reckoner.Meets f.mode f.bindings f.expression name

instance : Decidable (f.Meets name) :=
  inferInstanceAs (Decidable (Meets f.mode f.bindings f.expression name))

/-- The substitution of tokens depends on the values of the names of the text only. -/
theorem substituteTokens_congr (h : ∀ name ∈ variableNames s, b.get? name = b'.get? name) :
  substituteTokens b s = substituteTokens b' s
  := by
  apply List.flatMap_congr
  intro t ht
  rw [Token.substitute, Token.substitute]
  cases hname : t.name? with
  | none => rfl
  | some name =>
    rw [Token.name?_eq_some_iff] at hname
    rw [Option.bind_some, Option.bind_some, h name (mem_variableNames.mpr (hname ▸ ht))]

/-- A substitution depends on the values of the names that it meets only. -/
theorem substitute_eq_of_meets (h : ∀ name, Meets mode b s name → b.get? name = b'.get? name) :
  substitute mode b s = substitute mode b' s
  := by
  cases mode with
  | textual =>
    have hconcur : Concur s b.entries b'.entries := h
    apply hconcur.replaceEach_eq b.ascending b'.ascending
  | token => apply substituteTokens_congr h

/-- The value of a formula depends on the values of the names that it meets only. -/
theorem Formula.evaluate_eq_of_meets {g : Formula} (hexpression : f.expression = g.expression)
    (hmode : f.mode = g.mode) (h : ∀ name, f.Meets name → f.value? name = g.value? name) :
  f.evaluate = g.evaluate
  := by
  rw [evaluate, evaluate, substitute_eq_of_meets h, hexpression, hmode]

/-- A name that does not occur in a text is not met unless, in textual mode, the values of names
before it have characters in common with it. -/
theorem not_meets (hname : ¬name <:+: s)
    (hapart : mode = .textual → ∀ e ∈ b.entries, e.1 < name → ∀ c ∈ e.2.spell, c ∉ name) :
  ¬Meets mode b s name
  := by
  cases mode with
  | textual =>
    apply mt (infix_of_infix_replaceEach _) hname
    intro e he
    rw [List.mem_filter, decide_eq_true_eq] at he
    apply hapart rfl e he.1 he.2
  | token =>
    rw [Meets, ← mem_nameRuns]
    apply mt (fun h => (isName_of_mem_nameRuns h).2) hname

/-- A value for a name that does not occur in the expression does not matter. In textual mode this
requires that the values of the names before it have no characters in common with the name. -/
theorem evaluate_assign_of_absent (hname : ¬name <:+: f.expression)
    (hapart : f.mode = .textual →
      ∀ e ∈ f.bindings.entries, e.1 < name → ∀ c ∈ e.2.spell, c ∉ name)
    (v : Number) :
  (f.assign name v).evaluate = f.evaluate
  := by
  symm
  apply Formula.evaluate_eq_of_meets (f := f) (g := f.assign name v) rfl rfl
  intro other hother
  symm
  apply Bindings.get?_insert_of_ne
  rintro rfl
  apply not_meets hname hapart hother

/-- The name `ab` comes between `a` and `b` in the table, and `inf` is what `a` is replaced by. -/
theorem evaluate_assign_of_absent_between :
  (Formula.assign ⟨['a', '-', 'b'], .ofList [(['a'], 1.5), (['b'], 0.25)], .textual, rfl⟩
      ['a', 'b'] 7).evaluate = .ok 1.25
    ∧ (Formula.assign ⟨['a', '-', 'b'], .ofList [(['a'], .ofPattern false Number.infinity)], .token,
        rfl⟩ ['i', 'n', 'f'] 5).evaluate = .error (.malformed ['i', 'n', 'f'])
  := by
  constructor
  · rw [evaluate_assign_of_absent (by decide)]
    · decide +kernel
    · intro _ e he _
      have hfinite : ∀ e ∈ (Bindings.ofList [(['a'], 1.5), (['b'], 0.25)]).entries,
          e.2.IsFinite := by
        decide +kernel
      apply IsName.not_mem_of_mem_spell (by decide +kernel) (hfinite e he)
  · rw [evaluate_assign_of_absent (by decide)]
    · decide +kernel
    · intro hmode
      cases hmode

/-- A value for a name that does not occur in the expression can matter: the name `inf` occurs in
the text of the value of `a`. -/
theorem not_forall_evaluate_assign :
  ¬∀ (f : Formula) (name : Text) (v : Number), ¬name <:+: f.expression →
    (f.assign name v).evaluate = f.evaluate
  := by
  intro hall
  have heq := hall ⟨['a'], .ofList [(['a'], .ofPattern false Number.infinity)], .textual, rfl⟩
    ['i', 'n', 'f'] 5 (by decide)
  revert heq
  decide +kernel

end Reckoner
