import Reckoner.Text.Basic
import Reckoner.Text.Blank
import Reckoner.Text.Letter
import Reckoner.Text.Replace
import Reckoner.Number.Binary
import Reckoner.Number.Decimal
import Reckoner.Number.Layout
import Reckoner.Number.Reading
import Reckoner.Expression.Error
import Reckoner.Expression.Operator
import Reckoner.Expression.Lexeme
import Reckoner.Expression.Validity
import Reckoner.Expression.Variables
import Reckoner.Expression.Balance
import Reckoner.Expression.Split
import Reckoner.Expression.Reduction
import Reckoner.Expression.Tree
import Reckoner.Expression.Substitution
import Reckoner.Bindings
import Reckoner.Formula
import Reckoner.Evaluation
import Reckoner.Assignment
import Reckoner.Workspace
import Reckoner.Session.Input
import Reckoner.Session.Dialogue
import Reckoner.Session.Course
import Reckoner.Session.Device
import Reckoner.CommandLine.Arguments
import Reckoner.CommandLine.Program
import Reckoner.Main
import Reckoner.Proofs.Text.Class
import Reckoner.Proofs.Text.Trim
import Reckoner.Proofs.Text.Replace
import Reckoner.Proofs.Number.Literal
import Reckoner.Proofs.Number.Nearest
import Reckoner.Proofs.Number.RoundTrip
import Reckoner.Proofs.Expression.Balance
import Reckoner.Proofs.Number.Spelling
import Reckoner.Proofs.Number.Kind
import Reckoner.Proofs.Number.Display
import Reckoner.Proofs.Expression.Split
import Reckoner.Proofs.Expression.Grammar
import Reckoner.Proofs.Expression.Reduction
import Reckoner.Proofs.Expression.Descent
import Reckoner.Proofs.Expression.Composition
import Reckoner.Proofs.Expression.Outermost
import Reckoner.Proofs.Expression.Tokens
import Reckoner.Proofs.Expression.Names
import Reckoner.Proofs.Expression.Validity
import Reckoner.Proofs.Expression.Runs
import Reckoner.Proofs.Expression.Operands
import Reckoner.Proofs.Expression.Substitution
import Reckoner.Proofs.Expression.Instantiation
import Reckoner.Proofs.Expression.Partition
import Reckoner.Proofs.Expression.Concatenation
import Reckoner.Proofs.Expression.Spliced
import Reckoner.Proofs.Expression.Pieces
import Reckoner.Proofs.Evaluation.Values
import Reckoner.Proofs.Evaluation.Acceptance
import Reckoner.Proofs.Evaluation.Trees
import Reckoner.Proofs.Evaluation.Collision
import Reckoner.Proofs.Evaluation.Modes
import Reckoner.Proofs.Evaluation.Precedence
import Reckoner.Proofs.Evaluation.Blanks
import Reckoner.Proofs.Evaluation.Leftovers
import Reckoner.Proofs.Evaluation.Idempotence
import Reckoner.Proofs.Evaluation.Entries
import Reckoner.Proofs.Evaluation.Renaming
import Reckoner.Proofs.Evaluation.Relevance
import Reckoner.Proofs.Evaluation.Agreement
import Reckoner.Proofs.Evaluation.Infinite
import Reckoner.Proofs.Workspace.History
import Reckoner.Proofs.Session.Course
import Reckoner.Proofs.Session.Exchange
import Reckoner.Proofs.Session.Prompts
import Reckoner.Proofs.Session.Sequence
import Reckoner.Proofs.Session.Encoding
import Reckoner.Proofs.Session.ExitWord
import Reckoner.Proofs.Session.Fault
import Reckoner.Proofs.CommandLine.Arguments
import Reckoner.Proofs.CommandLine.OneShot
import Reckoner.Proofs.CommandLine.Reentry
import Reckoner.Proofs.Number.Notation
import Reckoner.Proofs.Number.Plain
