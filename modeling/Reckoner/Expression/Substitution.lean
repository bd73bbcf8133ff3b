import Reckoner.Bindings
import Reckoner.Expression.Lexeme
import Reckoner.Number.Layout
import Reckoner.Text.Replace

/-!
# Substitution

There are two ways to put values in the place of the variables of an expression. In `textual` mode
each name of the table, in the order of names, is replaced wherever it occurs in the text that the
names before it have left, also within a longer name. In `token` mode a name is replaced where it
is a whole token, and the result is the tokens one after the other. The texts put in are those of
`Number.spell`.
-/

namespace Reckoner

/-- The ways to substitute values for variables. -/
inductive Mode where
  | textual
  | token
deriving DecidableEq

/-- The text after the names of a table are replaced one after the other. -/
def substituteTextually (b : Bindings) (s : Text) : Text :=
  b.entries.foldl (fun t e => Text.replace e.1 e.2.spell t) s

/-- The text of a token, which is that of its value for a name that has one. -/
def Token.substitute (b : Bindings) (t : Token) : Text :=
  match t.name?.bind b.get? with
  | some v => v.spell
  | none => t.spelling

/-- The text of the tokens with the names of a table replaced. -/
def substituteTokens (b : Bindings) (s : Text) : Text :=
  (tokens s).flatMap (Token.substitute b)

/-- The text with the values of a table in the place of their names. -/
def substitute (mode : Mode) (b : Bindings) (s : Text) : Text :=
  match mode with
  | .textual => substituteTextually b s
  | .token => substituteTokens b s

end Reckoner
