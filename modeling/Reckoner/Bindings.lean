import Reckoner.Number.Binary
import Reckoner.Text.Basic

/-!
# Bindings

`Bindings` is a table of the values of variables. Its entries are in the order of their names, and
each name has one value, the last one that it was given: `get?_insert_self` and
`get?_insert_of_ne` say what a look-up finds after an insertion.
-/

namespace Reckoner

/-- A table with one value for each of some names. -/
structure Bindings where
  entries : List (Text × Number)
  /-- The names ascend. -/
  ascending : entries.Pairwise fun a b => a.1 < b.1

namespace Bindings

/-- The table without entries. -/
def empty : Bindings :=
  ⟨[], .nil⟩

instance : Inhabited Bindings := ⟨empty⟩

/-- Puts an entry into a list of entries with ascending names, in place of one with its name. -/
def insertEntry (name : Text) (value : Number) : List (Text × Number) → List (Text × Number)
  | [] => [(name, value)]
  | first :: rest =>
    if name < first.1 then (name, value) :: first :: rest
    else if name = first.1 then (name, value) :: rest
    else first :: insertEntry name value rest

/-- After an insertion an entry is the new one or one of those before. -/
theorem of_mem_insertEntry {name : Text} {value : Number} {entries : List (Text × Number)}
    {e : Text × Number} (h : e ∈ insertEntry name value entries) :
  e = (name, value) ∨ e ∈ entries
  := by
  induction entries with
  | nil => simpa [insertEntry] using h
  | cons first rest ih =>
    unfold insertEntry at h
    split at h
    · simpa using h
    split at h
    · rw [List.mem_cons] at h
      exact h.imp_right (List.mem_cons_of_mem _)
    · rw [List.mem_cons] at h
      rcases h with rfl | h
      · simp
      · exact (ih h).imp_right (List.mem_cons_of_mem _)

/-- An insertion keeps entries in the order of their names. -/
theorem pairwise_insertEntry (name : Text) (value : Number) {entries : List (Text × Number)}
    (h : entries.Pairwise fun a b => a.1 < b.1) :
  (insertEntry name value entries).Pairwise fun a b => a.1 < b.1
  := by
  induction entries with
  | nil => simp [insertEntry]
  | cons first rest ih =>
    rw [List.pairwise_cons] at h
    unfold insertEntry
    split
    · rename_i hlt
      refine .cons (fun e he => ?_) (.cons h.1 h.2)
      rcases List.mem_cons.mp he with rfl | he
      · exact hlt
      · exact Text.lt_trans hlt (h.1 e he)
    split
    · rename_i heq
      refine .cons (fun e he => ?_) h.2
      exact heq ▸ h.1 e he
    · rename_i hlt hne
      refine .cons (fun e he => ?_) (ih h.2)
      rcases of_mem_insertEntry he with rfl | he
      · exact Text.lt_of_not_lt hlt hne
      · exact h.1 e he

/-- The table in which a name has a value and all other names are as before. -/
def insert (b : Bindings) (name : Text) (value : Number) : Bindings :=
  ⟨insertEntry name value b.entries, pairwise_insertEntry name value b.ascending⟩

/-- The value of a name, if it has one. -/
def get? (b : Bindings) (name : Text) : Option Number :=
  b.entries.lookup name

/-- The table of a list of entries, of which a later one replaces an earlier one of its name. -/
def ofList (entries : List (Text × Number)) : Bindings :=
  entries.foldl (fun b e => b.insert e.1 e.2) empty

/-- Whether two tables have the same names with equal values. Values are compared as numbers, so
that the two zeros are equal and what is no number differs from itself. -/
def agree (a b : Bindings) : Bool :=
  a.entries.map Prod.fst == b.entries.map Prod.fst
    && (a.entries.zip b.entries).all fun (x, y) => x.2 == y.2

@[simp]
theorem get?_empty (name : Text) :
  empty.get? name = none
  := rfl

/-- An inserted value is found by its name. -/
@[simp]
theorem get?_insert_self (b : Bindings) (name : Text) (value : Number) :
  (b.insert name value).get? name = some value
  := by
  change (insertEntry name value b.entries).lookup name = some value
  induction b.entries with
  | nil => simp [insertEntry]
  | cons first rest ih =>
    unfold insertEntry
    split
    · simp
    split
    · simp
    · rename_i hne
      have hne' : (name == first.1) = false := beq_eq_false_iff_ne.mpr hne
      rw [List.lookup_cons, hne']
      exact ih

/-- An insertion does not change the values of other names. -/
theorem get?_insert_of_ne (b : Bindings) {name other : Text} (value : Number)
    (h : other ≠ name) :
  (b.insert name value).get? other = b.get? other
  := by
  change (insertEntry name value b.entries).lookup other = b.entries.lookup other
  have h' : (other == name) = false := beq_eq_false_iff_ne.mpr h
  induction b.entries with
  | nil => simp [insertEntry, List.lookup_cons, h']
  | cons first rest ih =>
    unfold insertEntry
    split
    · rw [List.lookup_cons, h']
    split
    · rename_i heq
      rw [List.lookup_cons, List.lookup_cons, ← heq, h']
    · rw [List.lookup_cons, List.lookup_cons]
      exact ih ▸ rfl

end Bindings

end Reckoner
