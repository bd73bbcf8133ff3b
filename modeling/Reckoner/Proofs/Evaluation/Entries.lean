import Mathlib.Data.List.Basic
import Mathlib.Data.List.Induction
import Mathlib.Logic.Relation
import Reckoner.Proofs.Evaluation.Values

/-!
# Tables and the entries given to them

A table that is made of a list of entries has for each name the value of the last of its entries
(`Bindings.get?_ofList_eq`). Tables with the same values are equal, because the order of their names
is fixed (`Bindings.ext_get?`), so that only those changes of the list matter to the table that
change the last entry of a name. An `Exchange` and a `Revision` are changes that do not.
-/

namespace Reckoner

variable {entries entries' : List (Text × Number)} {name : Text}

/-- The value of the last of the entries with a name. -/
def lastValue? (entries : List (Text × Number)) (name : Text) : Option Number :=
  (entries.filter fun e => e.1 = name).getLast?.map Prod.snd

/-- The last value of a name among two lists is that in the second, if there is one. -/
theorem lastValue?_append (entries entries' : List (Text × Number)) (name : Text) :
  lastValue? (entries ++ entries') name = (lastValue? entries' name).or (lastValue? entries name)
  := by
  rw [lastValue?, List.filter_append, List.getLast?_append, Option.map_or]
  rfl

theorem lastValue?_singleton (e : Text × Number) (name : Text) :
  lastValue? [e] name = if e.1 = name then some e.2 else none
  := by
  by_cases h : e.1 = name
  · simp [lastValue?, h]
  · simp [lastValue?, h]

/-- An entry counts if it has the name and no later entry has it. -/
theorem lastValue?_concat (entries : List (Text × Number)) (e : Text × Number) (name : Text) :
  lastValue? (entries ++ [e]) name = if e.1 = name then some e.2 else lastValue? entries name
  := by
  rw [lastValue?_append, lastValue?_singleton]
  split
  · rfl
  · rfl

/-- A name has no last value if no entry has the name. -/
theorem lastValue?_eq_none_iff :
  lastValue? entries name = none ↔ ∀ e ∈ entries, e.1 ≠ name
  := by
  simp [lastValue?]

/-- The last value of a name is that of an entry. -/
theorem mem_of_lastValue?_eq_some {v : Number} (h : lastValue? entries name = some v) :
  (name, v) ∈ entries
  := by
  rw [lastValue?, Option.map_eq_some_iff] at h
  obtain ⟨e, he, rfl⟩ := h
  have hmem := List.mem_of_getLast? he
  rw [List.mem_filter, decide_eq_true_eq] at hmem
  rw [← hmem.2]
  apply hmem.1

/-- If a name has the same value in all its entries then this value counts. -/
theorem lastValue?_eq_some_of_mem {v : Number} (h : (name, v) ∈ entries)
    (hv : ∀ w, (name, w) ∈ entries → w = v) :
  lastValue? entries name = some v
  := by
  cases hlast : lastValue? entries name with
  | none => cases lastValue?_eq_none_iff.mp hlast _ h rfl
  | some w => rw [hv w (mem_of_lastValue?_eq_some hlast)]

/-- Only the entries with a name count for its value. -/
theorem lastValue?_congr
    (h : (entries.filter fun e => e.1 = name) = entries'.filter fun e => e.1 = name) :
  lastValue? entries name = lastValue? entries' name
  := by
  rw [lastValue?, h, lastValue?]

/-! ### Tables -/

namespace Bindings

/-- A table that is filled from a list of entries has the last values of the list. -/
theorem get?_ofList_eq (entries : List (Text × Number)) (name : Text) :
  (ofList entries).get? name = lastValue? entries name
  := by
  induction entries using List.reverseRecOn with
  | nil => rfl
  | append_singleton entries e ih =>
    have hofList : ofList (entries ++ [e]) = (ofList entries).insert e.1 e.2 := by
      rw [ofList, List.foldl_append]
      rfl
    rw [hofList, lastValue?_concat, ← ih]
    split
    · rename_i heq
      rw [← heq, get?_insert_self]
    · rename_i hne
      apply get?_insert_of_ne _ _ (Ne.symm hne)

/-- No entry is in a table twice. -/
theorem nodup_entries (b : Bindings) :
  b.entries.Nodup
  := by
  apply b.ascending.imp
  rintro e _ hlt rfl
  cases List.lt_irrefl _ hlt

/-- The entries of a table are the names with the values that are found for them. -/
theorem mem_entries_iff {b : Bindings} {e : Text × Number} :
  e ∈ b.entries ↔ b.get? e.1 = some e.2
  := ⟨get?_of_mem, mem_of_get?⟩

/-- Tables with the same values are equal. -/
theorem ext_get? {a b : Bindings} (h : ∀ name, a.get? name = b.get? name) :
  a = b
  := by
  have hperm : a.entries.Perm b.entries := by
    rw [List.perm_ext_iff_of_nodup a.nodup_entries b.nodup_entries]
    intro e
    rw [mem_entries_iff, mem_entries_iff, h]
  have hentries : a.entries = b.entries := by
    apply hperm.eq_of_pairwise _ a.ascending b.ascending
    intro e e' _ _ hlt hlt'
    cases List.lt_asymm hlt hlt'
  cases a
  cases b
  cases hentries
  rfl

end Bindings

/-! ### Changes that do not matter -/

/-- Two neighbouring entries with different names change places. -/
inductive Exchange : List (Text × Number) → List (Text × Number) → Prop
  | swap {e e' : Text × Number} (before after : List (Text × Number)) (h : e.1 ≠ e'.1) :
    Exchange (before ++ e :: e' :: after) (before ++ e' :: e :: after)

/-- Entries of one name keep their order when entries of different names change places. -/
theorem Exchange.filter_eq (h : Exchange entries entries') (name : Text) :
  (entries.filter fun e => e.1 = name) = entries'.filter fun e => e.1 = name
  := by
  obtain ⟨before, after, hne⟩ := h
  rename_i e e'
  rw [List.filter_append, List.filter_append]
  by_cases he : e.1 = name
  · have he' : e'.1 ≠ name := fun heq => hne (he.trans heq.symm)
    simp [he, he']
  · simp [List.filter_cons, he]

/-- The last values stay the same when entries of different names change places, however often. -/
theorem lastValue?_eq_of_exchange (h : Relation.ReflTransGen Exchange entries entries')
    (name : Text) :
  lastValue? entries name = lastValue? entries' name
  := by
  induction h with
  | refl => rfl
  | tail _ hswap ih => rw [ih, lastValue?_congr (hswap.filter_eq name)]

/-- Without an entry that another one behind it replaces, or that has another name, the value is the
same. -/
theorem lastValue?_eq_of_without {before after : List (Text × Number)} {e : Text × Number}
    (h : e.1 = name → ∃ e' ∈ after, e'.1 = name) :
  lastValue? (before ++ e :: after) name = lastValue? (before ++ after) name
  := by
  by_cases he : e.1 = name
  · have hafter : lastValue? after name ≠ none := by
      obtain ⟨e', he', hname⟩ := h he
      rw [Ne, lastValue?_eq_none_iff]
      intro hnone
      apply hnone e' he' hname
    obtain ⟨v, hv⟩ := Option.ne_none_iff_exists'.mp hafter
    rw [List.append_cons, lastValue?_append _ after, lastValue?_append _ after, hv, Option.some_or,
      Option.some_or]
  · apply lastValue?_congr
    simp [he]

/-- A list of entries is revised without a change of the values of some names if the entries of each
name keep their order, or if an entry is left out that is replaced by one behind it or that has none
of the names. -/
inductive Revision (names : List Text) : List (Text × Number) → List (Text × Number) → Prop
  | reordered {entries entries' : List (Text × Number)}
      (h : ∀ name, (entries.filter fun e => e.1 = name) = entries'.filter fun e => e.1 = name) :
    Revision names entries entries'
  | replaced {e e' : Text × Number} (before after : List (Text × Number)) (h : e' ∈ after)
      (hname : e'.1 = e.1) :
    Revision names (before ++ e :: after) (before ++ after)
  | foreign {e : Text × Number} (before after : List (Text × Number)) (h : e.1 ∉ names) :
    Revision names (before ++ e :: after) (before ++ after)

/-- A revision keeps the last values of the names that matter. -/
theorem Revision.lastValue?_eq {names : List Text} (h : Revision names entries entries')
    (hname : name ∈ names) :
  lastValue? entries name = lastValue? entries' name
  := by
  cases h with
  | reordered h => apply lastValue?_congr (h name)
  | replaced before after h heq =>
    apply lastValue?_eq_of_without
    intro he
    exact ⟨_, h, heq.trans he⟩
  | foreign before after h =>
    apply lastValue?_eq_of_without
    rintro rfl
    cases h hname

/-- Revisions in either direction keep the last values of the names that matter. -/
theorem lastValue?_eq_of_revision {names : List Text}
    (h : Relation.EqvGen (Revision names) entries entries') (hname : name ∈ names) :
  lastValue? entries name = lastValue? entries' name
  := by
  induction h with
  | rel _ _ h => apply h.lastValue?_eq hname
  | refl _ => rfl
  | symm _ _ _ ih => rw [ih]
  | trans _ _ _ _ _ ih ih' => rw [ih, ih']

end Reckoner
