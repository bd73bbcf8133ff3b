import Reckoner.Expression.Operator
import Reckoner.Number.Reading
import Reckoner.Text.Blank
import Reckoner.Text.Letter

/-!
# Lexemes

A `Token` is what an expression is made of: a run of numeric characters, a name, which is a run of
letters, an operator, a parenthesis, or any other single character. A `Lexeme` is a token with the
positions in the text where it starts and stops, counted in bytes of the UTF-8 encoding.

`lexemes` lists the lexemes of a text. Every character that is not blank is a lexeme of its own at
first, and a lexeme is joined with the one that follows immediately if both are runs of the same
kind. The runs are therefore maximal, and blank characters belong to no lexeme but separate two
runs.
-/

namespace Reckoner

/-- The tokens of an expression. -/
inductive Token where
  /-- A run of digits and points, which need not have the form of a number. -/
  | number (text : Text)
  /-- A run of letters. -/
  | name (text : Text)
  | operator (o : Operator)
  | leftParen
  | rightParen
  /-- A character that has no place in an expression. -/
  | other (c : Char)
deriving DecidableEq

namespace Token

/-- The text of the token. -/
def spelling : Token → Text
  | number text => text
  | name text => text
  | operator o => [o.symbol]
  | leftParen => ['(']
  | rightParen => [')']
  | other c => [c]

/-- The token that a character makes on its own. -/
def ofChar (c : Char) : Token :=
  if Number.isNumeric c then number [c]
  else if isLetter c then name [c]
  else if c = '(' then leftParen
  else if c = ')' then rightParen
  else
    match Operator.ofChar? c with
    | some o => operator o
    | none => other c

@[simp]
theorem spelling_ofChar (c : Char) :
  (ofChar c).spelling = [c]
  := by
  unfold ofChar
  split
  · rfl
  split
  · rfl
  split
  · simp_all [spelling]
  split
  · simp_all [spelling]
  split
  · rename_i o h
    simp [spelling, Operator.eq_symbol_of_ofChar? h]
  · rfl

/-- The text of the name that the token is, if it is one. -/
def name? : Token → Option Text
  | name text => some text
  | _ => none

/-- The operator that the token is, if it is one. -/
def operator? : Token → Option Operator
  | operator o => some o
  | _ => none

/-- Whether the token is an operator. -/
def isOperator (t : Token) : Bool :=
  t.operator?.isSome

/-- The token of two runs of the same kind one after the other. -/
def append? : Token → Token → Option Token
  | number s, number t => some (number (s ++ t))
  | name s, name t => some (name (s ++ t))
  | _, _ => none

/-- Two tokens that are joined are spelled one after the other. -/
theorem spelling_append? {a b c : Token} (h : append? a b = some c) :
  c.spelling = a.spelling ++ b.spelling
  := by
  unfold append? at h
  split at h <;> cases h <;> rfl

end Token

/-- A token with the positions where it starts and stops. -/
structure Lexeme where
  token : Token
  start : Nat
  stop : Nat
deriving DecidableEq

namespace Lexeme

/-- The lexeme of a single character at a position. -/
def single (position : Nat) (c : Char) : Lexeme :=
  ⟨Token.ofChar c, position, position + c.utf8Size⟩

/-- The lexeme of two adjacent runs of the same kind. -/
def join? (a b : Lexeme) : Option Lexeme :=
  if a.stop = b.start then (a.token.append? b.token).map fun t => ⟨t, a.start, b.stop⟩ else none

/-- The lexeme in front of others, joined with the first of them if possible. -/
def attach (a : Lexeme) : List Lexeme → List Lexeme
  | [] => [a]
  | b :: rest =>
    match a.join? b with
    | some joined => joined :: rest
    | none => a :: b :: rest

end Lexeme

/-- The lexemes of a text that starts at a position. -/
def lexemesFrom (position : Nat) : Text → List Lexeme
  | [] => []
  | c :: s =>
    let rest := lexemesFrom (position + c.utf8Size) s
    if isBlank c then rest else (Lexeme.single position c).attach rest

/-- The lexemes of a text. -/
def lexemes (s : Text) : List Lexeme :=
  lexemesFrom 0 s

/-- The tokens of a text. -/
def tokens (s : Text) : List Token :=
  (lexemes s).map Lexeme.token

end Reckoner
