import Mathlib.Data.List.Induction
import Reckoner.Proofs.Expression.Names
import Reckoner.Proofs.Expression.Validity

/-!
# Runs of letters

A run of letters stands alone between two texts if neither of them goes on with a letter where it
meets the run. The names of a text are just the runs that stand alone in it (`mem_nameRuns_iff`).
If the blank characters of the text are left out then what they have separated comes together: the
runs of the stripped text are joined from names that follow each other with nothing but blank
characters between them (`isJoined_of_strip`).
-/

namespace Reckoner

variable {before after run part s : Text} {names : List Text}

/-! ### Runs that stand alone -/

/-- A run of letters stands alone between two texts if it does not go on in either of them. -/
structure StandsAlone (before run after : Text) : Prop where
  isName : IsName run
  before : ∀ c ∈ before.getLast?, isLetter c = false
  after : ∀ c ∈ after.head?, isLetter c = false

namespace StandsAlone

/-- A run remains alone if more text comes in front of what is in front of it. -/
theorem append (h : StandsAlone before run after) {start : Text}
    (hstart : before = [] → ∀ c ∈ start.getLast?, isLetter c = false) :
  StandsAlone (start ++ before) run after
  := by
  refine ⟨h.isName, ?_, h.after⟩
  cases before using List.reverseRecOn with
  | nil =>
    rw [List.append_nil]
    apply hstart rfl
  | append_singleton init c =>
    have hlast := h.before
    rw [List.getLast?_concat] at hlast
    rw [← List.append_assoc, List.getLast?_concat]
    apply hlast

/-- A run remains alone if text is taken away from the start of what is in front of it. -/
theorem of_append {start : Text} (h : StandsAlone (start ++ before) run after) :
  StandsAlone before run after
  := by
  refine ⟨h.isName, ?_, h.after⟩
  intro c hc
  apply h.before c
  rw [Option.mem_def] at hc
  rw [List.getLast?_append, hc]
  rfl

/-- Something is in front of a run in a text that does not start with a letter. -/
theorem before_ne_nil (h : StandsAlone before run after)
    (hs : ∀ c ∈ (before ++ run ++ after).head?, isLetter c = false) :
  before ≠ []
  := by
  rintro rfl
  obtain ⟨c, rest, rfl⟩ := List.exists_cons_of_ne_nil h.isName.1
  have hletter := h.isName.2 c List.mem_cons_self
  rw [hs c rfl] at hletter
  cases hletter

/-- A run that stands alone has no text of letters in front of it. -/
theorem before_eq_nil (h : StandsAlone before run after) (hbefore : ∀ c ∈ before, isLetter c) :
  before = []
  := by
  cases before using List.reverseRecOn with
  | nil => rfl
  | append_singleton init c =>
    have hletter := hbefore c (List.mem_append_right _ List.mem_cons_self)
    rw [h.before c List.getLast?_concat] at hletter
    cases hletter

/-- A run that stands alone is a name of the text. -/
theorem mem_nameRuns (h : StandsAlone before run after) :
  run ∈ nameRuns (before ++ run ++ after)
  := by
  cases before using List.reverseRecOn with
  | nil =>
    rw [List.nil_append, nameRuns_append h.isName h.after]
    apply List.mem_cons_self
  | append_singleton init c =>
    have hc := h.before c List.getLast?_concat
    rw [List.append_assoc, List.append_assoc, List.singleton_append, nameRuns_append_cons hc,
      nameRuns_append h.isName h.after]
    apply List.mem_append_right _ List.mem_cons_self

end StandsAlone

/-- The names of a text are the runs that stand alone in it. -/
theorem mem_nameRuns_iff {name : Text} :
  name ∈ nameRuns s ↔ ∃ before after, s = before ++ name ++ after ∧ StandsAlone before name after
  := by
  constructor
  · intro h
    induction s using Text.runInduction with
    | nil => cases h
    | cons c s hc ih =>
      rw [nameRuns_cons hc] at h
      obtain ⟨before, after, rfl, halone⟩ := ih h
      refine ⟨[c] ++ before, after, rfl, halone.append ?_⟩
      rintro - d hd
      rw [← Option.some.inj hd]
      apply hc
    | run run s hrun hs ih =>
      rw [nameRuns_append hrun hs] at h
      rcases List.mem_cons.mp h with rfl | h
      · refine ⟨[], s, rfl, hrun, ?_, hs⟩
        intro c hc
        cases hc
      · obtain ⟨before, after, rfl, halone⟩ := ih h
        refine ⟨run ++ before, after, by simp only [List.append_assoc], halone.append ?_⟩
        intro hnil
        cases halone.before_ne_nil hs hnil
  · rintro ⟨before, after, rfl, halone⟩
    apply halone.mem_nameRuns

/-! ### Runs of a stripped text -/

/-- Names follow each other with nothing but blank characters between them. -/
inductive IsSpaced : List Text → Text → Prop where
  | single (name : Text) : IsSpaced [name] name
  | cons (name : Text) {gap part : Text} {names : List Text} (hgap : gap ≠ [])
      (hblank : ∀ c ∈ gap, isBlank c) (h : IsSpaced names part) :
    IsSpaced (name :: names) (name ++ gap ++ part)

/-- A text of names that follow each other starts with one of them. -/
theorem IsSpaced.exists_prefix (h : IsSpaced names part) :
  ∃ name ∈ names, name <+: part
  := by
  cases h with
  | single => exact ⟨part, List.mem_cons_self, List.prefix_rfl⟩
  | cons name _ _ _ =>
    refine ⟨name, List.mem_cons_self, ?_⟩
    rw [List.append_assoc]
    apply List.prefix_append

/-- What starts with names does not start with a character other than a letter. -/
theorem IsSpaced.isLetter_head? (h : IsSpaced names part) (hnames : ∀ name ∈ names, IsName name)
    (right : Text) :
  ∃ c ∈ (part ++ right).head?, isLetter c
  := by
  obtain ⟨name, hname, rest, rfl⟩ := h.exists_prefix
  obtain ⟨hne, hletter⟩ := hnames name hname
  obtain ⟨c, name, rfl⟩ := List.exists_cons_of_ne_nil hne
  exact ⟨c, rfl, hletter c List.mem_cons_self⟩

/-- A name goes on with what comes behind blank characters if nothing else ends the name. -/
theorem IsSpaced.cons_of_strip {gap right : Text} (h : IsSpaced names part)
    (hnames : ∀ name ∈ names, IsName name) (hgap : gap.strip = [])
    (hhead : ∀ c ∈ (gap ++ part ++ right).head?, isLetter c = false) {name : Text} :
  IsSpaced (name :: names) (name ++ gap ++ part)
  := by
  have hne : gap ≠ [] := by
    rintro rfl
    obtain ⟨c, hc, hletter⟩ := h.isLetter_head? hnames right
    rw [hhead c hc] at hletter
    cases hletter
  have hblank : ∀ c ∈ gap, isBlank c := by
    simpa [Text.strip] using hgap
  apply IsSpaced.cons name hne hblank h

/-- A text that starts with a run starts with every name at its start. -/
theorem exists_eq_append {rest : Text} (h : StandsAlone [] run after) {name : Text}
    (hname : IsName name) (heq : name ++ rest = run ++ after) :
  ∃ more, run = name ++ more ∧ rest = more ++ after
  := by
  rcases List.append_eq_append_iff.mp heq with ⟨more, hrun, hrest⟩ | ⟨more, hname', hafter⟩
  · exact ⟨more, hrun, hrest⟩
  · cases more with
    | nil => exact ⟨[], by simpa using hname'.symm, by simpa using hafter.symm⟩
    | cons c more =>
      have hletter := hname.2 c (hname' ▸ List.mem_append_right _ List.mem_cons_self)
      rw [h.after c (hafter ▸ rfl)] at hletter
      cases hletter

/-- A run that does not stand at the start of a text comes behind every name at the start. -/
theorem exists_before_eq_append {rest : Text} (h : StandsAlone before run after)
    (hbefore : before ≠ []) {name : Text} (hname : IsName name)
    (heq : name ++ rest = before ++ (run ++ after)) :
  ∃ more, before = name ++ more ∧ rest = more ++ (run ++ after)
  := by
  rcases List.append_eq_append_iff.mp heq with hmore | ⟨more, hname', -⟩
  · exact hmore
  · cases hbefore (h.before_eq_nil fun c hc => hname.2 c (hname' ▸ List.mem_append_left _ hc))

/-! ### Joined runs -/

/-- A run between two texts is joined from names of a text if these follow each other in it with
nothing but blank characters between them, and what stands in front of them and behind them is
stripped to the two texts. -/
def IsJoined (s before run after : Text) : Prop :=
  ∃ left names part right, s = left ++ part ++ right ∧ left.strip = before ∧ right.strip = after
    ∧ IsSpaced names part ∧ names.flatten = run ∧ ∀ name ∈ names, name ∈ nameRuns s

namespace IsJoined

variable {start start' name : Text}

/-- What is put in front of a text and keeps its names does not change how a run is joined. -/
theorem append (h : IsJoined s before run after) (hstart : start.strip = start')
    (hkeep : ∀ name ∈ nameRuns s, name ∈ nameRuns (start ++ s)) :
  IsJoined (start ++ s) (start' ++ before) run after
  := by
  obtain ⟨left, names, part, right, rfl, rfl, hright, hspaced, hrun, hnames⟩ := h
  refine ⟨start ++ left, names, part, right, ?_, ?_, hright, hspaced, hrun, ?_⟩
  · simp only [List.append_assoc]
  · rw [Text.strip_append, hstart]
  · intro name hname
    apply hkeep name (hnames name hname)

/-- A name at the start of a text that does not go on is joined from itself. -/
theorem single (hname : IsName name) (hs : ∀ c ∈ s.head?, isLetter c = false) :
  IsJoined (name ++ s) [] name s.strip
  := by
  refine ⟨[], [name], name, s, rfl, rfl, rfl, .single name, List.flatten_singleton, ?_⟩
  intro other hother
  rw [List.mem_singleton.mp hother, nameRuns_append hname hs]
  apply List.mem_cons_self

/-- A name goes on with the run that is joined at the start of what follows. -/
theorem cons (h : IsJoined s [] run after) (hname : IsName name)
    (hs : ∀ c ∈ s.head?, isLetter c = false) :
  IsJoined (name ++ s) [] (name ++ run) after
  := by
  obtain ⟨gap, names, part, right, rfl, hgap, hright, hspaced, rfl, hnames⟩ := h
  have hcons : IsSpaced (name :: names) (name ++ gap ++ part) := by
    apply hspaced.cons_of_strip _ hgap hs
    intro w hw
    apply (isName_of_mem_nameRuns (hnames w hw)).1
  refine ⟨[], name :: names, name ++ gap ++ part, right, ?_, rfl, hright, hcons, rfl, ?_⟩
  · simp only [List.append_assoc, List.nil_append]
  · rw [nameRuns_append hname hs, List.forall_mem_cons]
    exact ⟨List.mem_cons_self, fun w hw => List.mem_cons_of_mem name (hnames w hw)⟩

end IsJoined

/-- A run of a stripped text is joined from names of the text. -/
theorem isJoined_of_strip (h : StandsAlone before run after)
    (hs : s.strip = before ++ run ++ after) :
  IsJoined s before run after
  := by
  induction s using Text.partInduction generalizing before run with
  | nil =>
    obtain ⟨c, hc⟩ := List.exists_mem_of_ne_nil run h.isName.1
    have hmem : c ∈ Text.strip [] := by
      rw [hs]
      simp [hc]
    cases hmem
  | blank c s hc ih =>
    rw [strip_cons_of_isBlank hc] at hs
    apply (ih h hs).append (strip_cons_of_isBlank hc [])
    rw [List.singleton_append, nameRuns_cons (isLetter_of_isBlank hc)]
    exact fun _ => id
  | cons c s hblank hc ih =>
    rw [strip_cons hblank] at hs
    have hbefore : before ≠ [] := by
      apply h.before_ne_nil
      rw [← hs]
      intro d hd
      rw [← Option.some.inj hd]
      apply hc
    obtain ⟨d, before, rfl⟩ := List.exists_cons_of_ne_nil hbefore
    obtain ⟨rfl, hrest⟩ := List.cons.inj hs
    have h' : StandsAlone ([c] ++ before) run after := h
    apply (ih h'.of_append hrest).append (strip_cons hblank [])
    rw [List.singleton_append, nameRuns_cons hc]
    exact fun _ => id
  | run name s hname hs' ih =>
    rw [Text.strip_append, hname.strip_eq, List.append_assoc] at hs
    by_cases hbefore : before = []
    · subst hbefore
      obtain ⟨more, rfl, hrest⟩ := exists_eq_append h hname hs
      by_cases hmore : more = []
      · -- The run ends where the first name does.
        subst hmore
        obtain rfl : s.strip = after := hrest
        rw [List.append_nil]
        apply IsJoined.single hname hs'
      · -- The run goes on behind a gap, and what comes there is joined by induction.
        have h' : StandsAlone [] more after :=
          ⟨⟨hmore, fun c hc => h.isName.2 c (List.mem_append_right name hc)⟩, h.before, h.after⟩
        apply (ih h' hrest).cons hname hs'
    · obtain ⟨more, rfl, hrest⟩ := exists_before_eq_append h hbefore hname hs
      rw [← List.append_assoc] at hrest
      apply (ih h.of_append hrest).append hname.strip_eq
      rw [nameRuns_append hname hs']
      exact fun _ => List.mem_cons_of_mem name

/-- The names of a text are the runs of letters that stand alone in it, each of them once and in
ascending order. The runs that stand alone in the text without its blank characters are joined from
names that follow each other in the text with nothing but blank characters between them. -/
theorem variableNames_runs (s : Text) :
  (∀ name, name ∈ variableNames s
      ↔ ∃ before after, s = before ++ name ++ after ∧ StandsAlone before name after)
    ∧ (variableNames s).Pairwise (· < ·)
    ∧ ∀ before run after, s.strip = before ++ run ++ after → StandsAlone before run after →
      ∃ left names part right, s = left ++ part ++ right ∧ left.strip = before
        ∧ right.strip = after ∧ IsSpaced names part ∧ names.flatten = run
        ∧ ∀ name ∈ names, name ∈ variableNames s
  := by
  refine ⟨?_, variableNames_ascending s, ?_⟩
  · intro name
    rw [← mem_nameRuns, mem_nameRuns_iff]
  · intro before run after hs halone
    simp only [← mem_nameRuns]
    apply isJoined_of_strip halone hs

/-- Two gaps are closed in front of a digit, and the last run has a name that occurs before. -/
theorem variableNames_runs_gaps :
  ['c', 'd'] ∈ variableNames ['1', 'a', ' ', 'b', '\t', ' ', 'c', 'd', '2', 'a']
    ∧ ∃ (left : Text) (names : List Text) (part right : Text),
      ['1', 'a', ' ', 'b', '\t', ' ', 'c', 'd', '2', 'a'] = left ++ part ++ right
        ∧ left.strip = ['1'] ∧ right.strip = ['2', 'a'] ∧ IsSpaced names part
        ∧ names.flatten = ['a', 'b', 'c', 'd']
        ∧ ∀ name ∈ names,
          name ∈ variableNames ['1', 'a', ' ', 'b', '\t', ' ', 'c', 'd', '2', 'a']
  := by
  obtain ⟨hmem, -, hjoined⟩ :=
    variableNames_runs ['1', 'a', ' ', 'b', '\t', ' ', 'c', 'd', '2', 'a']
  constructor
  · rw [hmem]
    refine ⟨['1', 'a', ' ', 'b', '\t', ' '], ['2', 'a'], rfl, by decide +kernel, ?_, ?_⟩
    · rintro c ⟨⟩
      decide +kernel
    · rintro c ⟨⟩
      decide +kernel
  · apply hjoined ['1'] ['a', 'b', 'c', 'd'] ['2', 'a'] (by decide +kernel)
    refine ⟨by decide +kernel, ?_, ?_⟩
    · rintro c ⟨⟩
      decide +kernel
    · rintro c ⟨⟩
      decide +kernel

end Reckoner
