import Mathlib.Tactic.Common
import Reckoner.CommandLine.Program

/-!
# Invocations

There are five ways to give a value to a parameter (`Parameter.IsGivenBy`): behind its long name or
a short one, in the same argument or in the next. An `Invocation` gives at most one expression, any
number of values for variables and at most once the flag for tokens, in any order. The settings that
are read from it have the values of the variables in the order in which they are given
(`Invocation.readArguments_eq`).
-/

namespace Reckoner

variable {s : Settings} {p : Parameter} {value : Text} {args : List Text}

/-! ### Assignments -/

/-- The first equals sign of an assignment ends the name, and the blanks around the name and around
the number do not count. -/
theorem Assignment.ofText?_append {before after : Text} {v : Number} (hmark : '=' ∉ before)
    (hname : before.trim ≠ []) (hvalue : Number.ofText? after.trim = some v) :
  Assignment.ofText? (before ++ '=' :: after) = .ok ⟨before.trim, v⟩
  := by
  rw [ofText?, Text.splitOnce?_append '=' after hmark]
  simp only [if_neg hname, hvalue]

/-! ### Parameters -/

/-- Arguments that give a value to a parameter. A value in an argument of its own may not look like
an option, and a value right behind a short name is not empty and does not start with an equals
sign. -/
inductive Parameter.IsGivenBy (p : Parameter) (value : Text) : List Text → Prop
  | long {name : Text} (h : longNames.lookup name = some (.inl p)) :
    IsGivenBy p value ['-' :: '-' :: (name ++ '=' :: value)]
  | longApart {name : Text} (h : longNames.lookup name = some (.inl p))
      (hvalue : Settings.looksLikeOption value = false) :
    IsGivenBy p value ['-' :: '-' :: name, value]
  | short {c : Char} (h : optionOfShortName? c = some (.inl p)) (hvalue : value ≠ [])
      (hmark : value.head? ≠ some '=') :
    IsGivenBy p value ['-' :: c :: value]
  | shortMarked {c : Char} (h : optionOfShortName? c = some (.inl p)) :
    IsGivenBy p value ['-' :: c :: '=' :: value]
  | shortApart {c : Char} (h : optionOfShortName? c = some (.inl p))
      (hvalue : Settings.looksLikeOption value = false) :
    IsGivenBy p value [['-', c], value]

/-- A long name is not empty and has no equals sign in it. -/
theorem of_lookup_longNames {name : Text} {o : Parameter ⊕ Flag}
    (h : longNames.lookup name = some o) :
  '=' ∉ name ∧ name ≠ []
  := by
  obtain ⟨before, after, heq, -⟩ := List.lookup_eq_some_iff.mp h
  have hmem : (name, o) ∈ longNames := by
    rw [heq]
    apply List.mem_append_right _ List.mem_cons_self
  have hall : ∀ e ∈ longNames, '=' ∉ e.1 ∧ e.1 ≠ [] := by decide
  apply hall _ hmem

theorem ne_minus {c : Char} {o : Parameter ⊕ Flag} (h : optionOfShortName? c = some o) :
  c ≠ '-'
  := by
  rintro rfl
  cases h

theorem Text.splitOnce?_eq_none {mark : Char} {text : Text} (h : mark ∉ text) :
  text.splitOnce? mark = none
  := by
  induction text with
  | nil => rfl
  | cons c text ih =>
    rw [List.mem_cons, not_or] at h
    rw [splitOnce?, if_neg (Ne.symm h.1), ih h.2]
    rfl

namespace Settings

/-- The next argument is the value of an option that waits for one, unless it looks like an option
itself. -/
theorem readArguments_pending (rest : List Text) (h : looksLikeOption value = false) :
  s.readArguments (some p) (value :: rest)
    = (s.give value p).bind fun t => t.readArguments none rest
  := by
  rw [readArguments]
  simp only [h, Bool.false_eq_true, if_false]

/-- Two minus signs in front of a text start a long name. -/
theorem readArguments_long {text : Text} (rest : List Text) (h : text ≠ []) :
  s.readArguments none (('-' :: '-' :: text) :: rest)
    = (s.readLongName text).bind fun (t, p) => t.readArguments p rest
  := by
  rw [readArguments]
  apply h

/-- A minus sign in front of another character starts short names. -/
theorem readArguments_short {c : Char} {text : Text} (rest : List Text) (h : c ≠ '-') :
  s.readArguments none (('-' :: c :: text) :: rest)
    = (s.readShortNames (c :: text)).bind fun (t, p) => t.readArguments p rest
  := by
  rw [readArguments]
  · intro hc _
    apply h hc
  · apply h

theorem bind_map_pair {x : Except Interruption Settings} {q : Option Parameter}
    {f : Settings × Option Parameter → Except Interruption Settings} :
  (x.map fun t => (t, q)).bind f = x.bind fun t => f (t, q)
  := by
  cases x with
  | error e => rfl
  | ok t => rfl

/-- A value that is given to a parameter is taken from the arguments. -/
theorem readArguments_of_isGivenBy (h : p.IsGivenBy value args) (rest : List Text) :
  s.readArguments none (args ++ rest) = (s.give value p).bind fun t => t.readArguments none rest
  := by
  cases h with
  | @long name hname =>
    rw [List.singleton_append, readArguments_long rest (by simp), readLongName,
      Text.splitOnce?_append '=' value (of_lookup_longNames hname).1]
    simp only [hname, bind_map_pair]
  | @longApart name hname hvalue =>
    rw [List.cons_append, readArguments_long _ (of_lookup_longNames hname).2, readLongName,
      Text.splitOnce?_eq_none (of_lookup_longNames hname).1]
    simp only [hname]
    apply readArguments_pending rest hvalue
  | @short c hc hvalue hmark =>
    obtain ⟨d, value, rfl⟩ := List.exists_cons_of_ne_nil hvalue
    rw [List.singleton_append, readArguments_short rest (ne_minus hc), readShortNames]
    simp only [hc]
    split
    · rename_i hnil
      cases hnil
    · rename_i hcons
      rw [hcons] at hmark
      cases hmark rfl
    · rw [bind_map_pair]
  | @shortMarked c hc =>
    rw [List.singleton_append, readArguments_short rest (ne_minus hc), readShortNames]
    simp only [hc, bind_map_pair]
  | @shortApart c hc hvalue =>
    rw [List.cons_append, readArguments_short _ (ne_minus hc), readShortNames]
    simp only [hc]
    apply readArguments_pending rest hvalue

end Settings

/-! ### Invocations -/

/-- Arguments that give an expression, if any, and values for variables, and choose the way to
substitute them. The name of a variable and its value are what is left of the two sides of an equals
sign without the blanks around them. -/
inductive Invocation : List Text → Option Text → List (Text × Number) → Mode → Prop
  | nil : Invocation [] none [] .textual
  | expression {x : Text} {given args : List Text} {entries : List (Text × Number)} {mode : Mode}
      (h : Parameter.expression.IsGivenBy x given) (rest : Invocation args none entries mode) :
    Invocation (given ++ args) (some x) entries mode
  | assignment {before after : Text} {v : Number} {given args : List Text} {x : Option Text}
      {entries : List (Text × Number)} {mode : Mode} (hmark : '=' ∉ before)
      (hname : before.trim ≠ []) (hvalue : Number.ofText? after.trim = some v)
      (h : Parameter.assignment.IsGivenBy (before ++ '=' :: after) given)
      (rest : Invocation args x entries mode) :
    Invocation (given ++ args) x ((before.trim, v) :: entries) mode
  | tokenSubstitution {args : List Text} {x : Option Text} {entries : List (Text × Number)}
      (rest : Invocation args x entries .textual) :
    Invocation ("--token-substitution".toList :: args) x entries .token

/-- The assignments with the names and values of entries. -/
def assignmentsOf (entries : List (Text × Number)) : List Assignment :=
  entries.map fun e => ⟨e.1, e.2⟩

/-- The settings that are read from an invocation add what it gives to those before it. -/
theorem Invocation.readArguments_eq {x : Option Text} {entries : List (Text × Number)} {mode : Mode}
    (h : Invocation args x entries mode) (hx : s.expression = none ∨ x = none)
    (hmode : s.tokenSubstitution = false ∨ mode = .textual) :
  s.readArguments none args = .ok { s with
    expression := s.expression.or x
    assignments := s.assignments ++ assignmentsOf entries
    tokenSubstitution := s.tokenSubstitution || mode = .token }
  := by
  -- Each option changes the settings that the next one is added to.
  induction h generalizing s with
  | nil =>
    rw [Settings.readArguments]
    simp [assignmentsOf]
  | @expression x given args entries mode hgiven rest ih =>
    have hnone : s.expression = none := hx.resolve_right (Option.some_ne_none x)
    have hgive : s.give x .expression = .ok { s with expression := some x } := by
      rw [Settings.give, hnone]
      rfl
    have hrest := ih (s := { s with expression := some x }) (Or.inr rfl) hmode
    rw [Settings.readArguments_of_isGivenBy hgiven, hgive, Except.bind, hrest, hnone]
    rfl
  | @assignment before after v given args x entries mode hmark hname hvalue hgiven rest ih =>
    have hgive : s.give (before ++ '=' :: after) .assignment
        = .ok { s with assignments := s.assignments ++ [⟨before.trim, v⟩] } := by
      rw [Settings.give, Assignment.ofText?_append hmark hname hvalue]
    have hrest := ih (s := { s with assignments := s.assignments ++ [⟨before.trim, v⟩] }) hx hmode
    rw [Settings.readArguments_of_isGivenBy hgiven, hgive, Except.bind, hrest, List.append_assoc]
    rfl
  | @tokenSubstitution args x entries rest ih =>
    have hflag : s.tokenSubstitution = false := hmode.resolve_right (by decide)
    have hread : s.readLongName "token-substitution".toList
        = .ok ({ s with tokenSubstitution := true }, none) := by
      change (s.raise .tokenSubstitution).map _ = _
      rw [Settings.raise, hflag]
      rfl
    have hrest := ih (s := { s with tokenSubstitution := true }) hx (Or.inr rfl)
    change s.readArguments none (('-' :: '-' :: "token-substitution".toList) :: args) = _
    rw [Settings.readArguments_long args (by decide), hread, hflag]
    apply hrest

end Reckoner
