import Reckoner.Expression.Lexeme

/-!
# Variables

`variableNames` lists the names that occur as tokens of an expression, each once and in the order
of texts.
-/

namespace Reckoner

/-- Puts a name into an ascending list of names unless it is there already. -/
def insertName (name : Text) : List Text → List Text
  | [] => [name]
  | first :: rest =>
    if name < first then name :: first :: rest
    else if name = first then first :: rest
    else first :: insertName name rest

/-- After an insertion a name is the new one or one of those before. -/
theorem mem_insertName {name other : Text} {names : List Text} :
  other ∈ insertName name names ↔ other = name ∨ other ∈ names
  := by
  induction names with
  | nil => simp [insertName]
  | cons first rest ih =>
    unfold insertName
    split
    · simp
    split
    · simp_all
    · simp only [List.mem_cons, ih]
      exact or_left_comm

/-- An insertion keeps names in ascending order. -/
theorem pairwise_insertName (name : Text) {names : List Text} (h : names.Pairwise (· < ·)) :
  (insertName name names).Pairwise (· < ·)
  := by
  induction names with
  | nil => simp [insertName]
  | cons first rest ih =>
    rw [List.pairwise_cons] at h
    unfold insertName
    split
    · rename_i hlt
      refine .cons (fun other hother => ?_) (.cons h.1 h.2)
      rcases List.mem_cons.mp hother with rfl | hother
      · exact hlt
      · exact Text.lt_trans hlt (h.1 other hother)
    split
    · exact .cons h.1 h.2
    · rename_i hlt hne
      refine .cons (fun other hother => ?_) (ih h.2)
      rcases mem_insertName.mp hother with rfl | hother
      · exact Text.lt_of_not_lt hlt hne
      · exact h.1 other hother

/-- The names that occur in a text, ascending. -/
def variableNames (s : Text) : List Text :=
  ((tokens s).filterMap Token.name?).foldr insertName []

/-- The names of a text are those of its tokens. -/
theorem mem_variableNames {name s : Text} :
  name ∈ variableNames s ↔ .name name ∈ tokens s
  := by
  have fold (names : List Text) : name ∈ names.foldr insertName [] ↔ name ∈ names := by
    induction names with
    | nil => simp
    | cons first rest ih => simp [mem_insertName, ih]
  rw [variableNames, fold, List.mem_filterMap]
  constructor
  · rintro ⟨t, ht, h⟩
    cases t <;> simp_all [Token.name?]
  · intro h
    exact ⟨_, h, rfl⟩

/-- The names of a text ascend, so that each is listed once. -/
theorem variableNames_ascending (s : Text) :
  (variableNames s).Pairwise (· < ·)
  := by
  rw [variableNames]
  induction (tokens s).filterMap Token.name? with
  | nil => exact .nil
  | cons first rest ih => exact pairwise_insertName first ih

end Reckoner
