import Reckoner.Assignment
import Reckoner.Expression.Substitution

/-!
# Command-line arguments

The arguments of the program are options. A `Parameter` is an option with a value and a `Flag` one
without. The short name of an option is a character behind a minus sign, and several may share one
minus sign; the long name is a word behind two. The value of a parameter is what follows its short
name in the same argument, an equals sign in front of it not counted, or what follows its long
name and an equals sign, and otherwise the next argument, which then may not look like an option.

`Settings.readArguments` reads the arguments from left to right and stops at the first that is not
in order or that asks for the version or the help.
-/

namespace Reckoner

/-- The options with a value. -/
inductive Parameter where
  /-- The expression to evaluate. -/
  | expression
  /-- The value of a variable. -/
  | assignment
  /-- The word that ends a session. -/
  | exitWord
deriving DecidableEq

/-- The options without a value. -/
inductive Flag where
  /-- Substitutes whole tokens. -/
  | tokenSubstitution
  /-- Asks for more messages in the log, which this program does not keep. -/
  | verbose
  | version
  | help
deriving DecidableEq

/-- The reasons for which arguments are refused. -/
inductive UsageError where
  | unknownOption (text : Text)
  | unexpectedArgument (text : Text)
  | missingValue (p : Parameter)
  | unexpectedValue (f : Flag)
  | repeatedParameter (p : Parameter)
  | repeatedFlag (f : Flag)
  | badAssignment (e : AssignmentError)
  /-- There are values for variables but there is no expression. -/
  | noExpression
deriving DecidableEq

/-- The reasons for which the reading of arguments stops. -/
inductive Interruption where
  | version
  | help
  | usage (e : UsageError)
deriving DecidableEq

/-- The options with a given short name. -/
def optionOfShortName? : Char → Option (Parameter ⊕ Flag)
  | 'e' => some (.inl .expression)
  | 's' => some (.inl .assignment)
  | 'v' => some (.inr .verbose)
  | 'V' => some (.inr .version)
  | 'h' => some (.inr .help)
  | _ => none

/-- The options with their long names. -/
def longNames : List (Text × (Parameter ⊕ Flag)) :=
  [("expression".toList, .inl .expression),
    ("set".toList, .inl .assignment),
    ("exit-word".toList, .inl .exitWord),
    ("token-substitution".toList, .inr .tokenSubstitution),
    ("verbose".toList, .inr .verbose),
    ("version".toList, .inr .version),
    ("help".toList, .inr .help)]

/-- What the arguments set. -/
structure Settings where
  expression : Option Text := none
  /-- The values of variables in the order in which they are given. -/
  assignments : List Assignment := []
  exitWord : Option Text := none
  tokenSubstitution : Bool := false

namespace Settings

/-- The settings with a value for a parameter. All but assignments are given once. -/
def give (s : Settings) (value : Text) : Parameter → Except Interruption Settings
  | .expression =>
    if s.expression.isSome then .error (.usage (.repeatedParameter .expression))
    else .ok { s with expression := some value }
  | .assignment =>
    match Assignment.ofText? value with
    | .ok a => .ok { s with assignments := s.assignments ++ [a] }
    | .error e => .error (.usage (.badAssignment e))
  | .exitWord =>
    if s.exitWord.isSome then .error (.usage (.repeatedParameter .exitWord))
    else .ok { s with exitWord := some value }

/-- The settings with a flag. -/
def raise (s : Settings) : Flag → Except Interruption Settings
  | .tokenSubstitution =>
    if s.tokenSubstitution then .error (.usage (.repeatedFlag .tokenSubstitution))
    else .ok { s with tokenSubstitution := true }
  | .verbose => .ok s
  | .version => .error .version
  | .help => .error .help

/-- The settings after short names, and the parameter among them that still lacks its value. -/
def readShortNames (s : Settings) : Text → Except Interruption (Settings × Option Parameter)
  | [] => .ok (s, none)
  | c :: rest =>
    match optionOfShortName? c with
    | some (.inl p) =>
      match rest with
      | [] => .ok (s, some p)
      | '=' :: value => (s.give value p).map fun t => (t, none)
      | value => (s.give value p).map fun t => (t, none)
    | some (.inr f) => (s.raise f).bind fun t => t.readShortNames rest
    | none => .error (.usage (.unknownOption ['-', c]))

/-- The settings after a long name with or without a value, and the parameter that still lacks its
value. -/
def readLongName (s : Settings) (text : Text) :
    Except Interruption (Settings × Option Parameter) :=
  match text.splitOnce? '=' with
  | some (name, value) =>
    match longNames.lookup name with
    | some (.inl p) => (s.give value p).map fun t => (t, none)
    | some (.inr f) => .error (.usage (.unexpectedValue f))
    | none => .error (.usage (.unknownOption ('-' :: '-' :: name)))
  | none =>
    match longNames.lookup text with
    | some (.inl p) => .ok (s, some p)
    | some (.inr f) => (s.raise f).map fun t => (t, none)
    | none => .error (.usage (.unknownOption ('-' :: '-' :: text)))

/-- Whether an argument looks like options: it starts with a minus sign and is longer. -/
def looksLikeOption : Text → Bool
  | '-' :: _ :: _ => true
  | _ => false

/-- The settings after arguments of which the first is the value of `pending`, if that is a
parameter. Two minus signs on their own say that no more options follow. -/
def readArguments (s : Settings) (pending : Option Parameter) :
    List Text → Except Interruption Settings
  | [] =>
    match pending with
    | some p => .error (.usage (.missingValue p))
    | none => .ok s
  | arg :: rest =>
    match pending with
    | some p =>
      if looksLikeOption arg then .error (.usage (.missingValue p))
      else (s.give arg p).bind fun t => t.readArguments none rest
    | none =>
      match arg with
      | ['-', '-'] =>
        match rest with
        | [] => .ok s
        | next :: _ => .error (.usage (.unexpectedArgument next))
      | '-' :: '-' :: text => (s.readLongName text).bind fun (t, p) => t.readArguments p rest
      | '-' :: c :: text => (s.readShortNames (c :: text)).bind fun (t, p) => t.readArguments p rest
      | _ => .error (.usage (.unexpectedArgument arg))

end Settings

end Reckoner
