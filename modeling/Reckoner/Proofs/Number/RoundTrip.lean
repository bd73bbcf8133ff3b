import Reckoner.Number.Layout
import Reckoner.Proofs.Number.Literal
import Reckoner.Proofs.Number.Nearest

/-!
# Reading back what is written

The shortest decimal of a finite pattern has this pattern, and its positional notation is read as
a decimal that has the pattern as well. In positional notation there is always a place behind the
point: `Decimal.placed` is what is read from it.
-/

namespace Reckoner

namespace Decimal

/-! ### The pattern of the shortest decimal -/

/-- A pattern is the nearest one to a grid point that is found for it. -/
theorem nearest_of_gridPoint? {p x j n : Nat} (h : gridPoint? p x j = some n) :
  Number.nearest (n * Nat.pow 10 j) unitsPerUnit = p
  := by
  simp only [gridPoint?] at h
  split at h
  · rename_i hbelow
    obtain rfl := Option.some.inj h
    apply hbelow.1
  · split at h
    · rename_i habove
      obtain rfl := Option.some.inj h
      apply habove
    · cases h

/-- The decimal that a search finds has the pattern that is searched for. -/
theorem exists_of_search {p x : Nat} (hx : Number.nearest x unitsPerUnit = p) (j : Nat) :
  ∃ n k : Nat, search (gridPoint? p x) x j = ⟨n, (k : Int) - 1074⟩ ∧ k ≤ j
    ∧ Number.nearest (n * Nat.pow 10 k) unitsPerUnit = p
  := by
  induction j with
  | zero =>
    refine ⟨x, 0, rfl, Nat.le_refl 0, ?_⟩
    rw [show Nat.pow 10 0 = 1 from rfl, Nat.mul_one]
    apply hx
  | succ j ih =>
    rw [search]
    split
    · rename_i n hn
      exact ⟨n, j + 1, rfl, Nat.le_refl _, nearest_of_gridPoint? hn⟩
    · obtain ⟨n, k, hsearch, hk, hnearest⟩ := ih
      exact ⟨n, k, hsearch, Nat.le_succ_of_le hk, hnearest⟩

theorem unitsPerUnit_pos :
  0 < unitsPerUnit
  := by
  apply Nat.pow_pos (Nat.succ_pos 4)

theorem mul_lt_two_pow {x y m n : Nat} (hx : x < 2 ^ m) (hy : y ≤ 2 ^ n) :
  x * y < 2 ^ (m + n)
  := by
  calc
    x * y ≤ x * 2 ^ n := Nat.mul_le_mul_left x hy
    _ < 2 ^ m * 2 ^ n := Nat.mul_lt_mul_of_pos_right hx (Nat.two_pow_pos n)
    _ = 2 ^ (m + n) := (Nat.pow_add 2 m n).symm

/-- The magnitude of a finite pattern has at most 2098 bits. -/
theorem magnitude_lt {p : Nat} (h : p < Number.infinity) :
  Number.magnitude p < 2 ^ (53 + 2045)
  := by
  rw [Number.magnitude]
  split
  · rename_i hp
    apply Nat.lt_of_lt_of_le hp
    decide +kernel
  · apply mul_lt_two_pow
    · rw [Number.patternsPerPower]
      omega
    · apply Nat.pow_le_pow_right (Nat.succ_pos 1)
      rw [Number.infinity] at h
      rw [Number.patternsPerPower]
      omega

/-- The grids of a search for a finite number are at most as coarse as that of 10 to the power 309.
-/
theorem digitBound_le {p : Nat} (h : p < Number.infinity) :
  digitBound (Number.magnitude p * unitsPerUnit) ≤ 1383
  := by
  have hunits : unitsPerUnit ≤ 2 ^ 2494 := by decide +kernel
  have hlt := mul_lt_two_pow (magnitude_lt h) hunits
  have hlog : (Number.magnitude p * unitsPerUnit).log2 < 53 + 2045 + 2494 := by
    by_cases hzero : Number.magnitude p * unitsPerUnit = 0
    · rw [hzero]
      decide
    · apply (Nat.log2_lt hzero).mpr hlt
  rw [digitBound]
  omega

/-- The shortest decimal of a finite pattern other than zero is a multiple of a power of ten. -/
theorem exists_of_shortest {p : Nat} (hzero : p ≠ 0) (h : p < Number.infinity) :
  ∃ n k : Nat, shortest p = ⟨n, (k : Int) - 1074⟩ ∧ k ≤ 1383
    ∧ Number.nearest (n * Nat.pow 10 k) unitsPerUnit = p
  := by
  have hx : Number.nearest (Number.magnitude p * unitsPerUnit) unitsPerUnit = p := by
    apply Eq.trans _ (Number.nearest_magnitude h)
    apply Number.nearest_congr unitsPerUnit_pos Nat.one_pos
    rw [Nat.mul_one]
  obtain ⟨n, k, hsearch, hk, hnearest⟩ :=
    exists_of_search hx (digitBound (Number.magnitude p * unitsPerUnit))
  use n, k
  rw [shortest, if_neg hzero]
  exact ⟨hsearch, Nat.le_trans hk (digitBound_le h), hnearest⟩

/-! ### The pattern of a decimal -/

/-- A decimal below a power of ten that outweighs the unit is less than half a unit, and therefore
nearest to zero. -/
theorem nearest_eq_zero_of_le {c e m n : Nat} (hpow : Nat.pow 2 (n + 1) ≤ Nat.pow 10 m)
    (h : c.log2 + 1 + m ≤ e) :
  Number.nearest (c * Nat.pow 2 n) (Nat.pow 10 e) = 0
  := by
  have hdouble : 2 * (c * 2 ^ n) = c * 2 ^ (n + 1) := by
    rw [Nat.mul_left_comm, ← Nat.pow_succ']
  have hc : c < 2 ^ (c.log2 + 1) := Nat.lt_log2_self
  apply Number.nearest_eq_zero
  calc
    2 * (c * 2 ^ n) = c * 2 ^ (n + 1) := hdouble
    _ < 2 ^ (c.log2 + 1) * 2 ^ (n + 1) := Nat.mul_lt_mul_of_pos_right hc (Nat.two_pow_pos _)
    _ ≤ 10 ^ (c.log2 + 1) * 10 ^ m := Nat.mul_le_mul (Nat.pow_le_pow_left (by decide) _) hpow
    _ = 10 ^ (c.log2 + 1 + m) := (Nat.pow_add 10 _ _).symm
    _ ≤ 10 ^ e := Nat.pow_le_pow_right (by decide) h

/-- A decimal below 10 to the power -400 is nearest to zero. -/
theorem nearest_units_eq_zero {c : Nat} {e : Int} (h : e + (c.log2 + 1) < -400) :
  Number.nearest (units ⟨c, e⟩).1 (units ⟨c, e⟩).2 = 0
  := by
  cases e with
  | ofNat e =>
    simp only [Int.ofNat_eq_natCast] at h
    omega
  | negSucc e =>
    have hpow : Nat.pow 2 (1074 + 1) ≤ Nat.pow 10 400 := by decide +kernel
    have he : c.log2 + 1 + 400 ≤ e + 1 := by
      rw [Int.negSucc_eq] at h
      omega
    rw [units]
    -- From here on only the bound matters, and the power of two need not be computed.
    revert hpow
    generalize 1074 = n
    intro hpow
    apply nearest_eq_zero_of_le hpow he

/-- The pattern of a decimal with the coefficient zero is that of zero. -/
theorem nearest_units_zero (e : Int) :
  Number.nearest (units ⟨0, e⟩).1 (units ⟨0, e⟩).2 = 0
  := by
  cases e with
  | ofNat e =>
    apply Number.nearest_eq_zero
    simp only [units, Nat.zero_mul]
    apply Nat.one_pos
  | negSucc e =>
    apply Number.nearest_eq_zero
    simp only [units, Nat.zero_mul]
    apply Nat.pow_pos (Nat.succ_pos 9)

/-- A decimal that is nearest to a pattern other than zero, and not too great, has this pattern. -/
theorem pattern_of_nearest {d : Decimal} {p : Nat} (hp : p ≠ 0) (he : d.exponent < 400)
    (h : Number.nearest d.units.1 d.units.2 = p) :
  d.pattern = p
  := by
  obtain ⟨c, e⟩ := d
  have hc : c ≠ 0 := by
    rintro rfl
    apply hp
    rw [← h, nearest_units_zero]
  rw [pattern, if_neg hc, if_neg (Int.not_le.mpr he), if_neg, h]
  intro hsmall
  apply hp
  rw [← h, nearest_units_eq_zero hsmall]

/-! ### Positional notation -/

/-- The decimal that is read from positional notation, which has at least one place. -/
def placed (d : Decimal) : Decimal :=
  match d.exponent with
  | .ofNat e => ⟨d.coefficient * Nat.pow 10 (e + 1), -1⟩
  | .negSucc _ => d

/-- A decimal that is read from positional notation has a place behind the point. -/
theorem exponent_placed_lt (d : Decimal) :
  d.placed.exponent < 0
  := by
  obtain ⟨c, e⟩ := d
  cases e with
  | ofNat e => apply Int.negSucc_lt_zero 0
  | negSucc e => apply Int.negSucc_lt_zero e

theorem isDigit_of_mem_digits {d : Decimal} {c : Char} (h : c ∈ d.digits) :
  c.isDigit
  := Nat.isDigit_of_mem_toDigits (Nat.succ_pos 9) (Nat.le_refl 10) h

theorem isDigit_of_mem_zeros {n : Nat} {c : Char} (h : c ∈ List.replicate n '0') :
  c.isDigit
  := by
  rw [List.eq_of_mem_replicate h]
  decide

theorem ofDigitChars_digits (d : Decimal) :
  Nat.ofDigitChars 10 d.digits 0 = d.coefficient
  := Nat.ofDigitChars_ten_toDigits

/-- Digits on the two sides of a point are the positional notation of a decimal, and those of a
coefficient with a place for each of them behind the point. -/
structure IsPlaced (d : Decimal) (whole fraction : Text) : Prop where
  whole_ne_nil : whole ≠ []
  fraction_ne_nil : fraction ≠ []
  isDigit_whole : ∀ c ∈ whole, c.isDigit
  isDigit_fraction : ∀ c ∈ fraction, c.isDigit
  positional_eq : d.positional = whole ++ '.' :: fraction
  placed_eq : d.placed = ⟨Nat.ofDigitChars 10 (whole ++ fraction) 0, -(fraction.length : Int)⟩

theorem digits_ne_nil (d : Decimal) :
  d.digits ≠ []
  := Nat.toDigits_ne_nil

/-- A decimal without a fraction has the zeros of its exponent in front of the point and one behind
it. -/
theorem isPlaced_ofNat (c e : Nat) :
  IsPlaced ⟨c, .ofNat e⟩ (digits ⟨c, .ofNat e⟩ ++ List.replicate e '0') ['0']
  := by
  constructor
  · apply List.append_ne_nil_of_left_ne_nil (digits_ne_nil _)
  · apply List.cons_ne_nil
  · intro x hx
    rcases List.mem_append.mp hx with hx | hx
    · apply isDigit_of_mem_digits hx
    · apply isDigit_of_mem_zeros hx
  · simp
  · simp [positional, sides]
  · rw [List.append_assoc, ← List.replicate_succ', Nat.ofDigitChars_append,
      Nat.ofDigitChars_replicate_zero, ofDigitChars_digits, Nat.mul_comm]
    rfl

/-- A decimal with at least as many places as digits has a zero in front of the point, and zeros
between the point and its digits. -/
theorem isPlaced_below_one {c e : Nat} (h : (digits ⟨c, .negSucc e⟩).length ≤ e + 1) :
  IsPlaced ⟨c, .negSucc e⟩ ['0']
    (List.replicate (e + 1 - (digits ⟨c, .negSucc e⟩).length) '0' ++ digits ⟨c, .negSucc e⟩)
  := by
  have hplaces : -((List.replicate (e + 1 - (digits ⟨c, .negSucc e⟩).length) '0'
      ++ digits ⟨c, .negSucc e⟩).length : Int) = .negSucc e := by
    rw [List.length_append, List.length_replicate, Nat.sub_add_cancel h]
    rfl
  constructor
  · apply List.cons_ne_nil
  · apply List.append_ne_nil_of_right_ne_nil _ (digits_ne_nil _)
  · simp
  · intro x hx
    rcases List.mem_append.mp hx with hx | hx
    · apply isDigit_of_mem_zeros hx
    · apply isDigit_of_mem_digits hx
  · simp [positional, sides, h, digits_ne_nil]
  · rw [hplaces, List.cons_append, List.nil_append, Nat.ofDigitChars_cons,
      Nat.ofDigitChars_append, Nat.ofDigitChars_replicate_zero]
    simp only [Nat.mul_zero, Nat.zero_add, Nat.sub_self, ofDigitChars_digits]
    rfl

/-- A decimal with more digits than places has the point between its digits. -/
theorem isPlaced_from_one {c e : Nat} (h : ¬(digits ⟨c, .negSucc e⟩).length ≤ e + 1) :
  IsPlaced ⟨c, .negSucc e⟩
    ((digits ⟨c, .negSucc e⟩).take ((digits ⟨c, .negSucc e⟩).length - (e + 1)))
    ((digits ⟨c, .negSucc e⟩).drop ((digits ⟨c, .negSucc e⟩).length - (e + 1)))
  := by
  have hplaces : -(((digits ⟨c, .negSucc e⟩).drop
      ((digits ⟨c, .negSucc e⟩).length - (e + 1))).length : Int) = .negSucc e := by
    rw [List.length_drop, Nat.sub_sub_self (Nat.le_of_not_le h)]
    rfl
  constructor
  · rw [List.ne_nil_iff_length_pos, List.length_take]
    omega
  · rw [List.ne_nil_iff_length_pos, List.length_drop]
    omega
  · intro x hx
    apply isDigit_of_mem_digits (List.mem_of_mem_take hx)
  · intro x hx
    apply isDigit_of_mem_digits (List.mem_of_mem_drop hx)
  · have hne : (digits ⟨c, .negSucc e⟩).drop ((digits ⟨c, .negSucc e⟩).length - (e + 1)) ≠ [] := by
      rw [List.ne_nil_iff_length_pos, List.length_drop]
      omega
    simp only [positional, sides, if_neg h, if_neg hne]
  · rw [hplaces, List.take_append_drop, ofDigitChars_digits]
    rfl

/-- Positional notation consists of digits on both sides of a point. -/
theorem exists_isPlaced (d : Decimal) :
  ∃ whole fraction, IsPlaced d whole fraction
  := by
  obtain ⟨c, e⟩ := d
  cases e with
  | ofNat e => exact ⟨_, _, isPlaced_ofNat c e⟩
  | negSucc e =>
    by_cases h : (digits ⟨c, .negSucc e⟩).length ≤ e + 1
    · exact ⟨_, _, isPlaced_below_one h⟩
    · exact ⟨_, _, isPlaced_from_one h⟩

/-- Positional notation is read as the decimal with a place for each digit behind the point. -/
theorem ofText?_positional (d : Decimal) :
  ofText? d.positional = some d.placed
  := by
  obtain ⟨whole, fraction, h⟩ := d.exists_isPlaced
  rw [h.positional_eq, h.placed_eq]
  apply ofText?_point (List.append_ne_nil_of_left_ne_nil h.whole_ne_nil _) h.isDigit_whole
    h.isDigit_fraction

/-! ### The shortest decimal in positional notation -/

/-- There are 10 to the power 1074 decimal units in one. -/
theorem unitsPerUnit_mul :
  unitsPerUnit * Nat.pow 2 1074 = Nat.pow 10 1074
  := by
  decide +kernel

/-- A multiple of a power of ten below the unit, as a fraction of units. -/
theorem mul_units_negSucc {a b u n k e m : Nat} (hunit : u * a = Nat.pow 10 m)
    (hm : k + (e + 1) = m) (hb : b = Nat.pow 10 (e + 1)) :
  n * a * u = n * Nat.pow 10 k * b
  := by
  calc
    n * a * u = n * (u * a) := by rw [Nat.mul_assoc, Nat.mul_comm a u]
    _ = n * 10 ^ (k + (e + 1)) := by rw [hunit, hm]; rfl
    _ = n * (10 ^ k * 10 ^ (e + 1)) := by rw [Nat.pow_add]
    _ = n * 10 ^ k * b := by rw [hb, Nat.mul_assoc]; rfl

/-- A multiple of a power of ten from the unit on. -/
theorem mul_units_ofNat {a u n k e m : Nat} (hunit : u * a = Nat.pow 10 m) (hm : e + m = k) :
  n * Nat.pow 10 e * a * u = n * Nat.pow 10 k * 1
  := by
  calc
    n * 10 ^ e * a * u = n * 10 ^ e * (u * a) := by rw [Nat.mul_assoc, Nat.mul_comm a u]
    _ = n * (10 ^ e * 10 ^ m) := by rw [hunit, Nat.mul_assoc]; rfl
    _ = n * 10 ^ k * 1 := by rw [← Nat.pow_add, hm, Nat.mul_one]

/-- A multiple of a power of ten with a place of its own. -/
theorem mul_units_succ (a c e : Nat) :
  c * Nat.pow 10 (e + 1) * a * 1 = c * Nat.pow 10 e * a * Nat.pow 10 1
  := by
  calc
    c * 10 ^ (e + 1) * a * 1 = c * (10 ^ e * 10) * a := by rw [Nat.mul_one, Nat.pow_succ]
    _ = c * 10 ^ e * a * 10 := by rw [← Nat.mul_assoc, Nat.mul_right_comm]
    _ = c * 10 ^ e * a * 10 ^ 1 := by rw [Nat.pow_one]

/-- The multiples of a power of ten that a search looks at, as fractions of units. -/
theorem nearest_units (n k : Nat) :
  Number.nearest (units ⟨n, (k : Int) - 1074⟩).1 (units ⟨n, (k : Int) - 1074⟩).2
    = Number.nearest (n * Nat.pow 10 k) unitsPerUnit
  := by
  by_cases hk : k < 1074
  · obtain ⟨e, he⟩ : ∃ e, k + (e + 1) = 1074 := ⟨1073 - k, by omega⟩
    have hexponent : (k : Int) - 1074 = .negSucc e := by
      rw [Int.negSucc_eq]
      omega
    rw [hexponent]
    apply Number.nearest_congr (Nat.pow_pos (Nat.succ_pos 9)) unitsPerUnit_pos
    apply mul_units_negSucc unitsPerUnit_mul he rfl
  · obtain ⟨e, he⟩ : ∃ e, e + 1074 = k := ⟨k - 1074, by omega⟩
    have hexponent : (k : Int) - 1074 = .ofNat e := by
      rw [Int.ofNat_eq_natCast]
      omega
    rw [hexponent]
    apply Number.nearest_congr Nat.one_pos unitsPerUnit_pos
    apply mul_units_ofNat unitsPerUnit_mul he

/-- What is read from positional notation is the same fraction of units. -/
theorem nearest_units_placed (d : Decimal) :
  Number.nearest d.placed.units.1 d.placed.units.2 = Number.nearest d.units.1 d.units.2
  := by
  obtain ⟨c, e⟩ := d
  cases e with
  | ofNat e =>
    apply Number.nearest_congr (Nat.pow_pos (Nat.succ_pos 9)) Nat.one_pos
    apply mul_units_succ
  | negSucc e => rfl

/-- The shortest decimal of a pattern has this pattern. -/
theorem pattern_shortest {p : Nat} (h : p < Number.infinity) :
  (shortest p).pattern = p
  := by
  by_cases hzero : p = 0
  · rw [hzero]
    rfl
  · obtain ⟨n, k, hshortest, hk, hnearest⟩ := exists_of_shortest hzero h
    rw [hshortest]
    apply pattern_of_nearest hzero
    · change (k : Int) - 1074 < 400
      omega
    · rw [nearest_units, hnearest]

/-- The shortest decimal keeps its pattern in positional notation. -/
theorem pattern_placed_shortest {p : Nat} (h : p < Number.infinity) :
  (shortest p).placed.pattern = p
  := by
  by_cases hzero : p = 0
  · rw [hzero]
    rfl
  · obtain ⟨n, k, hshortest, -, hnearest⟩ := exists_of_shortest hzero h
    apply pattern_of_nearest hzero
    · apply Int.lt_of_lt_of_le (exponent_placed_lt _)
      decide
    · rw [nearest_units_placed, hshortest, nearest_units, hnearest]

end Decimal

end Reckoner
