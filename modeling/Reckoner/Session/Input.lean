import Reckoner.Text.Basic

/-!
# Input lines

The input of a session is a list of bytes. `inputLines` divides it after every line feed, so that
each line but possibly the last ends with one. A line is decoded only when it is its turn, with
`decodeLine?`, since an input may go wrong behind the point up to which a session reads it.
-/

namespace Reckoner

/-- The byte that ends a line. -/
def lineFeed : UInt8 := 10

/-- The lines of an input, each with the line feed that ends it. -/
def inputLines : List UInt8 → List (List UInt8)
  | [] => []
  | b :: rest =>
    if b = lineFeed then [b] :: inputLines rest
    else
      match inputLines rest with
      | [] => [[b]]
      | line :: more => (b :: line) :: more

/-- The lines together are the input. -/
theorem flatten_inputLines (input : List UInt8) :
  (inputLines input).flatten = input
  := by
  induction input with
  | nil => rfl
  | cons b rest ih =>
    unfold inputLines
    split
    · simp [ih]
    · split <;> simp_all

/-- The text of which a line is the UTF-8 encoding, if there is one. -/
def decodeLine? (line : List UInt8) : Option Text :=
  (String.fromUTF8? ⟨line.toArray⟩).map String.toList

end Reckoner
