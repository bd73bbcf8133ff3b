import Reckoner.Number.Reading
import Reckoner.Text.Blank

/-!
# Assignments

An assignment is written as a name and a value with an equals sign between them. The first equals
sign counts, so that no name contains one, and blank characters around the name and the value do
not. Any other text may be a name.
-/

namespace Reckoner

/-- A name with a value for it. -/
structure Assignment where
  name : Text
  value : Number

/-- The reasons for which a text is no assignment. -/
inductive AssignmentError where
  /-- The text has no equals sign. -/
  | noEqualsSign (text : Text)
  /-- Nothing is in front of the equals sign. -/
  | noName (text : Text)
  /-- What follows the equals sign is no number. -/
  | noNumber (value : Text)
deriving DecidableEq

/-- The text that tells a user of the error. -/
def AssignmentError.message : AssignmentError → Text
  | noEqualsSign text => "expected NAME=VALUE, found '".toList ++ text ++ "'".toList
  | noName text => "missing variable name in '".toList ++ text ++ "'".toList
  | noNumber value => "'".toList ++ value ++ "' is not a number".toList

/-- Reads an assignment. -/
def Assignment.ofText? (s : Text) : Except AssignmentError Assignment :=
  match s.splitOnce? '=' with
  | none => .error (.noEqualsSign s)
  | some (before, after) =>
    if before.trim = [] then .error (.noName s)
    else
      match Number.ofText? after.trim with
      | some v => .ok ⟨before.trim, v⟩
      | none => .error (.noNumber after.trim)

end Reckoner
