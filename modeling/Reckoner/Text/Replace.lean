import Reckoner.Text.Basic

/-!
# Replacement

`Text.replace name value s` puts `value` in the place of every occurrence of `name` in `s`, taking
occurrences from the left and none that overlaps one already taken. The text put in is not
searched again. The empty name occurs before every character and at the end.
-/

namespace Reckoner

namespace Text

/-- Drops `skipped` characters and replaces the occurrences of `name` in what follows. -/
def replaceFrom (name value : Text) (skipped : Nat) : Text → Text
  | [] => []
  | c :: s =>
    match skipped with
    | n + 1 => replaceFrom name value n s
    | 0 =>
      if name.isPrefixOf (c :: s) then value ++ replaceFrom name value (name.length - 1) s
      else c :: replaceFrom name value 0 s

/-- The text with `value` before every character and at the end. -/
def intersperse (value : Text) : Text → Text
  | [] => value
  | c :: s => value ++ c :: intersperse value s

/-- The text with `value` in the place of every occurrence of `name`. -/
def replace (name value s : Text) : Text :=
  match name with
  | [] => intersperse value s
  | _ => replaceFrom name value 0 s

/-- To pass over characters is to replace in what is left of the text behind them. -/
theorem replaceFrom_eq_drop (name value : Text) (n : Nat) (s : Text) :
  replaceFrom name value n s = replaceFrom name value 0 (s.drop n)
  := by
  induction s generalizing n with
  | nil => cases n <;> rfl
  | cons c s ih =>
    cases n with
    | zero => rfl
    | succ n => simpa [replaceFrom] using ih n

/-- A text that starts with the name continues after it, with the value put in. -/
theorem replace_append {name : Text} (value s : Text) (h : name ≠ []) :
  replace name value (name ++ s) = value ++ replace name value s
  := by
  obtain ⟨c, rest, rfl⟩ := List.exists_cons_of_ne_nil h
  simp [replace, replaceFrom, replaceFrom_eq_drop _ _ rest.length]

/-- A text that does not start with the name keeps its first character. -/
theorem replace_cons {name : Text} (value : Text) {c : Char} {s : Text}
    (h : ¬name <+: c :: s) :
  replace name value (c :: s) = c :: replace name value s
  := by
  cases name with
  | nil => exact absurd (List.nil_prefix) h
  | cons d rest =>
    rw [← List.isPrefixOf_iff_prefix] at h
    simp only [replace, replaceFrom, if_neg h]

end Text

end Reckoner
