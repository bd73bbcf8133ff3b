import Mathlib.Data.List.SplitBy
import Reckoner.Formula
import Reckoner.Proofs.Evaluation.Entries

/-!
# Names changed for others

In token mode the names of variables serve only to find their values. If the names in a text and in
a table of values for all of them are changed consistently then the result of a substitution stays
the same, whatever the new names are: they may be parts of each other, come in another order or be
spelt like values. The names in a text are its runs of letters, and `Text.rename` changes them
without regard to tokens.
-/

namespace Reckoner

variable {f : Text → Text} {b : Bindings} {run s : Text}

/-! ### Runs -/

namespace Text

/-- The parts of a text: letters that are next to each other are in the same part, and any other
character is one by itself. -/
def runs (s : Text) : List Text :=
  s.splitBy fun a b => isLetter a && isLetter b

/-- The runs of a text one after the other are the text. -/
theorem flatten_runs (s : Text) :
  s.runs.flatten = s
  := List.flatten_splitBy _ s

theorem runs_cons {c : Char} (hc : isLetter c = false) (s : Text) :
  runs (c :: s) = [c] :: runs s
  := by
  apply List.splitBy_append (l := [c])
  intro a ha b _
  obtain rfl : c = a := Option.some.inj ha
  rw [hc, Bool.false_and]

/-- Letters that do not continue are one run. -/
theorem runs_append (hrun : IsName run) (hs : ∀ c ∈ s.head?, isLetter c = false) :
  runs (run ++ s) = run :: runs s
  := by
  have hwhole : runs run = [run] := by
    apply List.splitBy_of_isChain hrun.1
    apply List.Pairwise.isChain
    apply List.pairwise_of_forall_mem_list
    intro a ha b hb
    rw [hrun.2 a ha, hrun.2 b hb, Bool.and_self]
  rw [runs, List.splitBy_append]
  · change runs run ++ runs s = _
    rw [hwhole]
    rfl
  · intro a _ b hb
    rw [hs b hb, Bool.and_false]

/-! ### Texts with other names -/

/-- The text in which each run of letters is changed for another. -/
def rename (f : Text → Text) (s : Text) : Text :=
  s.runs.flatMap fun run => if IsName run then f run else run

theorem rename_cons (f : Text → Text) {c : Char} (hc : isLetter c = false) (s : Text) :
  rename f (c :: s) = c :: rename f s
  := by
  have hname : ¬IsName [c] := fun h => h.not_mem hc List.mem_cons_self
  rw [rename, runs_cons hc, List.flatMap_cons, if_neg hname]
  rfl

/-- A name that does not continue is renamed as a whole. -/
theorem rename_append (f : Text → Text) (hrun : IsName run)
    (hs : ∀ c ∈ s.head?, isLetter c = false) :
  rename f (run ++ s) = f run ++ rename f s
  := by
  rw [rename, runs_append hrun hs, List.flatMap_cons, if_pos hrun]
  rfl

/-- What does not start with a letter does not do so with other names either. -/
theorem isLetter_of_mem_head?_rename (f : Text → Text) (hs : ∀ c ∈ s.head?, isLetter c = false) :
  ∀ c ∈ (s.rename f).head?, isLetter c = false
  := by
  cases s with
  | nil => apply hs
  | cons c s =>
    rw [rename_cons f (hs c rfl)]
    apply hs

end Text

/-! ### Tables with other names -/

/-- The table in which the names are changed for others. -/
def Bindings.rename (f : Text → Text) (b : Bindings) : Bindings :=
  .ofList (b.entries.map fun e => (f e.1, e.2))

/-- The names of a table are changed for names, and different ones for different ones. -/
structure Bindings.IsRenaming (b : Bindings) (f : Text → Text) : Prop where
  isName : ∀ e ∈ b.entries, IsName (f e.1)
  injective : ∀ e ∈ b.entries, ∀ e' ∈ b.entries, f e.1 = f e'.1 → e.1 = e'.1

namespace Bindings

/-- Names with values are renamed to names. -/
theorem IsRenaming.isName_of_get? (hf : b.IsRenaming f) {name : Text} {v : Number}
    (hv : b.get? name = some v) :
  IsName (f name)
  := hf.isName (name, v) (mem_of_get? hv)

/-- A name that is changed for another keeps its value. -/
theorem IsRenaming.get?_rename (hf : b.IsRenaming f) {name : Text} {v : Number}
    (hv : b.get? name = some v) :
  (b.rename f).get? (f name) = some v
  := by
  rw [rename, get?_ofList_eq]
  apply lastValue?_eq_some_of_mem
  · apply List.mem_map.mpr ⟨(name, v), mem_of_get? hv, rfl⟩
  · intro w hw
    obtain ⟨e, he, heq⟩ := List.mem_map.mp hw
    obtain ⟨hname, rfl⟩ := Prod.mk.inj heq
    have hname' : e.1 = name := hf.injective e he (name, v) (mem_of_get? hv) hname
    rw [← hname', get?_of_mem he] at hv
    apply Option.some.inj hv

end Bindings

/-! ### Substitution and evaluation -/

/-- A renamed text with a renamed table is substituted like the text with the table. -/
theorem substituteTokens_rename (hf : b.IsRenaming f)
    (hvalues : ∀ run ∈ s.runs, IsName run → (b.get? run).isSome) :
  substituteTokens (b.rename f) (s.rename f) = substituteTokens b s
  := by
  induction s using Text.partInduction with
  | nil => rfl
  | blank c s hc ih =>
    have hletter := isLetter_of_isBlank hc
    rw [Text.runs_cons hletter, List.forall_mem_cons] at hvalues
    rw [Text.rename_cons f hletter, substituteTokens_cons_of_isBlank _ hc,
      substituteTokens_cons_of_isBlank _ hc, ih hvalues.2]
  | cons c s hblank hc ih =>
    rw [Text.runs_cons hc, List.forall_mem_cons] at hvalues
    rw [Text.rename_cons f hc, substituteTokens_cons _ hblank hc, substituteTokens_cons _ hblank hc,
      ih hvalues.2]
  | run run s hrun hs ih =>
    rw [Text.runs_append hrun hs, List.forall_mem_cons] at hvalues
    obtain ⟨v, hv⟩ := Option.isSome_iff_exists.mp (hvalues.1 hrun)
    rw [Text.rename_append f hrun hs,
      substituteTokens_append _ (hf.isName_of_get? hv) (Text.isLetter_of_mem_head?_rename f hs),
      substituteTokens_append _ hrun hs, substitute_name_of_get? (hf.get?_rename hv),
      substitute_name_of_get? hv, ih hvalues.2]

/-- A text without blank characters has none with other names either. -/
theorem strip_rename (hf : b.IsRenaming f)
    (hvalues : ∀ run ∈ s.runs, IsName run → (b.get? run).isSome) (hs : s.strip = s) :
  (s.rename f).strip = s.rename f
  := by
  rw [Text.strip_eq_self_iff] at hs ⊢
  intro c hc
  obtain ⟨run, hrun, hc⟩ := List.mem_flatMap.mp hc
  split at hc
  · rename_i hname
    obtain ⟨v, hv⟩ := Option.isSome_iff_exists.mp (hvalues run hrun hname)
    apply isBlank_of_isLetter ((hf.isName_of_get? hv).2 c hc)
  · have hmem : c ∈ s.runs.flatten := List.mem_flatten.mpr ⟨run, hrun, hc⟩
    rw [Text.flatten_runs] at hmem
    apply hs c hmem

/-- The formula in which the names are changed for others. -/
def Formula.rename (f : Text → Text) (g : Formula) : Formula :=
  { Formula.ofText g.mode (g.expression.rename f) with bindings := g.bindings.rename f }

/-- Token mode does not depend on what names variables have. For a text without blank characters and
a table that has values for all runs of letters in it, a substitution of tokens has the same result
after the names in both are changed for others, different ones for different ones. Therefore an
evaluation has the same outcome. -/
theorem substitute_rename (hs : s.strip = s)
    (hvalues : ∀ run ∈ s.runs, IsName run → (b.get? run).isSome) (hf : b.IsRenaming f) :
  substitute .token (b.rename f) (s.rename f) = substitute .token b s
    ∧ (Formula.rename f ⟨s, b, .token, hs⟩).evaluate = Formula.evaluate ⟨s, b, .token, hs⟩
  := by
  have hsubstitute := substituteTokens_rename hf hvalues
  use hsubstitute
  change reduce (substituteTokens (b.rename f) (s.rename f).strip) = reduce (substituteTokens b s)
  rw [strip_rename hf hvalues hs, hsubstitute]

/-- Names spelt backwards: `fni` becomes the word for infinity, and `ab`, in which `a` comes first,
becomes `ba`. -/
theorem substitute_rename_reverse :
  substitute .token
      (.rename List.reverse
        (.ofList [(['a', 'b'], -1), (['f', 'n', 'i'], .ofPattern false (Number.infinity + 1))]))
      (Text.rename List.reverse ['2', 'a', 'b', '-', 'f', 'n', 'i'])
      = ['2', '-', '1', '.', '0', '-', 'N', 'a', 'N']
    ∧ (Formula.rename List.reverse
        ⟨['a', 'b', '*', 'a'], .ofList [(['a'], 3), (['a', 'b'], 4)], .token, rfl⟩).evaluate = .ok 12
  := by
  constructor
  · rw [(substitute_rename (by decide) _ _).1]
    · decide +kernel
    · decide +kernel
    · constructor
      · decide +kernel
      · intro e _ e' _ heq
        apply List.reverse_injective heq
  · rw [(substitute_rename rfl _ _).2]
    · decide +kernel
    · decide +kernel
    · constructor
      · decide +kernel
      · intro e _ e' _ heq
        apply List.reverse_injective heq

end Reckoner
