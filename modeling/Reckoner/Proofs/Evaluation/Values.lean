import Mathlib.Tactic.Common
import Reckoner.Evaluation
import Reckoner.Proofs.Expression.Substitution

/-!
# The values of an evaluation

An evaluation first collects the values of the names of an expression from the table that it is
given: `Bindings.collect` is the table of those values. What follows is a substitution of them and a
reduction of the result (`evaluate_eq`), so that everything else in the given table is without
effect.
-/

namespace Reckoner

namespace Bindings

/-- The table in which the given names have the values that they have in `values`. -/
def collect (values b : Bindings) : List Text → Except EvaluationError Bindings
  | [] => .ok b
  | name :: rest =>
    match values.get? name with
    | some v => collect values (b.insert name v) rest
    | none => .error (.missingVariable name)

/-- All names that have a value can be collected, and no others have values then. -/
theorem exists_collect {values : Bindings} {names : List Text}
    (h : ∀ name ∈ names, (values.get? name).isSome) (b : Bindings) :
  ∃ b', values.collect b names = .ok b'
    ∧ ∀ name, b'.get? name = if name ∈ names then values.get? name else b.get? name
  := by
  induction names generalizing b with
  | nil =>
    use b, rfl
    intro name
    rw [if_neg List.not_mem_nil]
  | cons first rest ih =>
    obtain ⟨v, hv⟩ := Option.isSome_iff_exists.mp (h first List.mem_cons_self)
    obtain ⟨b', hb', hget⟩ := ih (fun name hname => h name (List.mem_cons_of_mem first hname))
      (b.insert first v)
    use b'
    constructor
    · rw [collect, hv]
      apply hb'
    · intro name
      rw [hget]
      by_cases hrest : name ∈ rest
      · rw [if_pos hrest, if_pos (List.mem_cons_of_mem first hrest)]
      · rw [if_neg hrest]
        by_cases hfirst : name = first
        · rw [hfirst, get?_insert_self, if_pos List.mem_cons_self, hv]
        · rw [get?_insert_of_ne b v hfirst, if_neg]
          rw [List.mem_cons, not_or]
          use hfirst

/-- All names have values if they can be collected. -/
theorem isSome_of_collect {values b b' : Bindings} {names : List Text}
    (h : values.collect b names = .ok b') :
  ∀ name ∈ names, (values.get? name).isSome
  := by
  induction names generalizing b with
  | nil =>
    intro name hname
    cases hname
  | cons first rest ih =>
    rw [collect] at h
    cases hfirst : values.get? first with
    | none =>
      rw [hfirst] at h
      cases h
    | some v =>
      rw [hfirst] at h
      intro name hname
      rcases List.mem_cons.mp hname with rfl | hname
      · rw [hfirst]
        rfl
      · apply ih h name hname

/-- What is collected has the values of the names and keeps all others. -/
theorem get?_of_collect {values b b' : Bindings} {names : List Text}
    (h : values.collect b names = .ok b') (name : Text) :
  b'.get? name = if name ∈ names then values.get? name else b.get? name
  := by
  obtain ⟨c, hc, hget⟩ := exists_collect (isSome_of_collect h) b
  rw [h] at hc
  cases hc
  apply hget

/-- The names of a table that is collected from the empty one are those that were asked for. -/
theorem isSome_get?_of_collect_iff {values b : Bindings} {names : List Text}
    (h : values.collect .empty names = .ok b) (name : Text) :
  (b.get? name).isSome ↔ name ∈ names
  := by
  rw [get?_of_collect h]
  by_cases hname : name ∈ names
  · rw [if_pos hname, iff_true_right hname]
    apply isSome_of_collect h name hname
  · rw [if_neg hname, iff_false_right hname]
    apply Bool.false_ne_true

/-! ### Lists of entries -/

/-- The last of the entries of a name counts, and only without one does the table before them. -/
theorem get?_foldl_insert (entries : List (Text × Number)) (b : Bindings) (name : Text) :
  (entries.foldl (fun b e => b.insert e.1 e.2) b).get? name
    = (entries.reverse.lookup name).or (b.get? name)
  := by
  induction entries generalizing b with
  | nil => rfl
  | cons e rest ih =>
    have hinsert : (b.insert e.1 e.2).get? name = (List.lookup name [e]).or (b.get? name) := by
      by_cases hname : name = e.1
      · rw [hname, get?_insert_self, List.lookup_cons_self, Option.some_or]
      · rw [get?_insert_of_ne b e.2 hname, List.lookup_cons, beq_eq_false_iff_ne.mpr hname]
        rfl
    rw [List.foldl_cons, ih, hinsert, List.reverse_cons, List.lookup_append, Option.or_assoc]

/-- A table that is filled from a list has the values that stand last in the list. -/
theorem get?_ofList (entries : List (Text × Number)) (name : Text) :
  (ofList entries).get? name = entries.reverse.lookup name
  := by
  rw [ofList, get?_foldl_insert, get?_empty, Option.or_none]

/-- A table that is filled from ascending entries has all of them. -/
theorem get?_ofList_of_mem {entries : List (Text × Number)}
    (h : entries.Pairwise fun a b => a.1 < b.1) {e : Text × Number} (he : e ∈ entries) :
  (ofList entries).get? e.1 = some e.2
  := by
  obtain ⟨before, after, rfl⟩ := List.append_of_mem he
  have hafter := (List.pairwise_cons.mp (List.pairwise_append.mp h).2.1).1
  rw [get?_ofList, List.lookup_eq_some_iff]
  use after.reverse, before.reverse
  constructor
  · simp
  · intro e' he'
    rw [bne_iff_ne]
    intro heq
    have hlt := hafter e' (List.mem_reverse.mp he')
    rw [heq] at hlt
    cases List.lt_irrefl _ hlt

/-- A collection of names with given values puts them in one after the other. -/
theorem collect_zip {values : Bindings} {names : List Text} {vs : List Number}
    (hlength : vs.length = names.length)
    (hvalues : ∀ e ∈ names.zip vs, values.get? e.1 = some e.2) (b : Bindings) :
  values.collect b names = .ok ((names.zip vs).foldl (fun b e => b.insert e.1 e.2) b)
  := by
  induction names generalizing vs b with
  | nil => rfl
  | cons first rest ih =>
    obtain ⟨v, vs, rfl⟩ := List.exists_cons_of_length_eq_add_one hlength
    rw [List.zip_cons_cons, List.forall_mem_cons] at hvalues
    rw [collect, hvalues.1]
    apply ih (Nat.succ.inj hlength) hvalues.2

end Bindings

/-- To assign the values of names one after the other is to collect them first. -/
theorem assignAll_eq (values : Bindings) (names : List Text) (f : Formula) :
  assignAll values f names
    = (values.collect f.bindings names).map fun b => { f with bindings := b }
  := by
  induction names generalizing f with
  | nil => rfl
  | cons first rest ih =>
    rw [assignAll, Bindings.collect]
    cases values.get? first with
    | none => rfl
    | some v => apply ih

/-- An evaluation of a valid expression substitutes the collected values and reduces the result. -/
theorem evaluate_eq {s : Text} (h : isValid s) (mode : Mode) (values : Bindings) :
  evaluate mode values s = (do
    let b ← values.collect .empty (variableNames s)
    (reduce (substitute mode b s.strip)).mapError .reduction)
  := by
  rw [evaluate, if_pos h, assignAll_eq]
  change (Except.map _ (values.collect .empty (variableNames s)) >>= _) = _
  cases values.collect .empty (variableNames s) with
  | error e => rfl
  | ok b => rfl

/-- The evaluation of a valid expression with one value for each of its names is that of the formula
in which the names have these values. -/
theorem evaluate_ofList_zip {s : Text} (h : isValid s) {vs : List Number}
    (hlength : vs.length = (variableNames s).length) (mode : Mode) :
  evaluate mode (.ofList ((variableNames s).zip vs)) s
    = ({ Formula.ofText mode s with
          bindings := .ofList ((variableNames s).zip vs) } : Formula).evaluate.mapError .reduction
  := by
  have hentries : ((variableNames s).zip vs).Pairwise fun a b => a.1 < b.1 := by
    rw [← List.pairwise_map (f := Prod.fst) (R := (· < ·)), List.map_fst_zip hlength.ge]
    apply variableNames_ascending
  have hcollect := Bindings.collect_zip hlength
    (fun e he => Bindings.get?_ofList_of_mem hentries he) .empty
  rw [evaluate_eq h, hcollect]
  rfl

theorem mapError_eq_ok_iff {ε ε' α : Type} {x : Except ε α} {f : ε → ε'} {a : α} :
  x.mapError f = .ok a ↔ x = .ok a
  := by
  cases x with
  | error e => simp [Except.mapError]
  | ok a => simp [Except.mapError]

/-- An error after a change of errors is what one before it is changed to. -/
theorem mapError_eq_error_iff {ε ε' α : Type} {x : Except ε α} {f : ε → ε'} {e' : ε'} :
  x.mapError f = .error e' ↔ ∃ e, x = .error e ∧ f e = e'
  := by
  cases x with
  | error e => simp [Except.mapError]
  | ok a => simp [Except.mapError]

end Reckoner
