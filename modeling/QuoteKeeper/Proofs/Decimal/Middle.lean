import QuoteKeeper.Market.BidAsk
import QuoteKeeper.Proofs.Decimal.Division

/-!
# Half way between two decimals

The middle of two numbers is half of their sum, and both steps are rounded. It does not pass one of
the two if the sum is the number of a decimal, or twice that one is. Otherwise the sum can lose its
last digit to a carry and be rounded beyond that double: then the middle is past a number that it
should lie before, though never by more than four units of that number's last place.
-/

namespace QuoteKeeper

namespace Decimal

/-- Some decimal is this number. -/
def Representable (x : ℚ) : Prop := ∃ d : Decimal, d.value = x

theorem representable_div {c s : Nat} (short : c ≤ limit) (few : s ≤ places) :
    Representable ((c : ℚ) / 10 ^ s) := by
  refine ⟨{ coefficient := c, scale := s, coefficient_le := short, scale_le := few }, ?_⟩
  rw [value_eq, signed]
  simp

/-- No number is above the largest coefficient. -/
theorem value_le_limit (d : Decimal) : d.value ≤ limit := by
  have magnitude := magnitude_mul_pow_le d (Nat.zero_le _)
  rw [pow_zero, mul_one] at magnitude
  rw [value_eq_magnitude]
  split
  · linarith [d.magnitude_nonneg]
  · exact magnitude

/-- Twice the bound, or the sum that is halved, can be written. -/
def Roomy (bound : Decimal) (sum : ℚ) : Prop :=
  Representable (2 * bound.value) ∨ Representable sum

/-- Twice a number can be written with as many places unless its coefficient is very large; one of
28 digits never is. -/
theorem roomy_of_short {bound : Decimal} (short : 2 * bound.coefficient ≤ limit) (sum : ℚ) :
    Roomy bound sum := by
  refine Or.inl ⟨{ bound with coefficient := 2 * bound.coefficient, coefficient_le := short }, ?_⟩
  rw [value_eq, value_eq, signed, signed]
  split
  · push_cast
    ring
  · push_cast
    ring

/-- A multiple of five in the last place has a double with one place less. -/
theorem representable_fives {n t : Nat} (short : 5 * n ≤ limit) (few : t + 1 ≤ places) :
    ∃ e : Decimal, e.value = ((5 * n : ℕ) : ℚ) / 10 ^ (t + 1) ∧ Representable (2 * e.value) := by
  obtain ⟨e, value⟩ := representable_div short few
  obtain ⟨double, same⟩ := representable_div (c := n) (s := t) (by omega) (by omega)
  refine ⟨e, value, double, ?_⟩
  rw [same, value, pow_succ]
  push_cast
  field_simp
  ring

/-- Just above a number with places there is one that can be doubled. -/
theorem roomy_above {d : Decimal} (nonneg : 0 ≤ d.value) (placed : d.scale ≠ 0) :
    ∃ e : Decimal, Representable (2 * e.value) ∧ d.value ≤ e.value ∧
      e.value ≤ d.value + 4 / 10 ^ d.scale := by
  obtain ⟨t, scale⟩ := Nat.exists_eq_add_one_of_ne_zero placed
  have short := d.coefficient_le
  obtain ⟨e, value, double⟩ := representable_fives (n := (d.coefficient + 4) / 5) (t := t)
    (by rw [limit]; omega) (scale.symm.trans_le d.scale_le)
  refine ⟨e, double, ?_⟩
  rw [value, value_of_nonneg nonneg, magnitude, scale, ← add_div]
  constructor
  · refine div_le_div_of_nonneg_right ?_ (by positivity)
    have least : d.coefficient ≤ 5 * ((d.coefficient + 4) / 5) := by omega
    exact_mod_cast least
  · refine div_le_div_of_nonneg_right ?_ (by positivity)
    have most : 5 * ((d.coefficient + 4) / 5) ≤ d.coefficient + 4 := by omega
    exact_mod_cast most

/-- Just below a number with places there is one that can be doubled. -/
theorem roomy_below {d : Decimal} (nonneg : 0 ≤ d.value) (placed : d.scale ≠ 0) :
    ∃ e : Decimal, Representable (2 * e.value) ∧ d.value - 4 / 10 ^ d.scale ≤ e.value ∧
      e.value ≤ d.value := by
  obtain ⟨t, scale⟩ := Nat.exists_eq_add_one_of_ne_zero placed
  have short := d.coefficient_le
  obtain ⟨e, value, double⟩ := representable_fives (n := d.coefficient / 5) (t := t)
    (by rw [limit]; omega) (scale.symm.trans_le d.scale_le)
  refine ⟨e, double, ?_⟩
  rw [value, value_of_nonneg nonneg, magnitude, scale, ← sub_div]
  constructor
  · refine div_le_div_of_nonneg_right ?_ (by positivity)
    have least : d.coefficient ≤ 5 * (d.coefficient / 5) + 4 := by omega
    rw [sub_le_iff_le_add]
    exact_mod_cast least
  · refine div_le_div_of_nonneg_right ?_ (by positivity)
    have most : 5 * (d.coefficient / 5) ≤ d.coefficient := by omega
    exact_mod_cast most

/-! ### The two steps -/

/-- `middle` is half of the sum `x`, with both steps rounded. -/
structure Halved (x middle : ℚ) : Prop where
  small : x < limit + 1
  steps : ∃ total : Decimal, Rounds x total.value ∧ Rounds (total.value / 2) middle

theorem fit_lt {negative : Bool} {n s : Nat} {r : Decimal} (found : fit negative n s = some r) :
    (n : ℚ) / 10 ^ s < limit + 1 := by
  simp only [fit, Nat.pow_eq] at found
  split at found
  next => cases found
  next enough =>
    have short : excess n ≤ s := (Nat.le_max_right _ _).trans (not_lt.mp enough)
    have whole := (excess_le_iff n s).mp short
    rw [div_lt_iff₀ (by positivity)]
    have below : n < (limit + 1) * 10 ^ s :=
      (Nat.div_lt_iff_lt_mul (by positivity)).mp (Nat.lt_succ_of_le whole)
    exact_mod_cast below

theorem add?_lt {a b r : Decimal} (found : add? a b = some r) : a.value + b.value < limit + 1 := by
  rw [add?] at found
  split at found
  next nothing =>
    rw [value_of_isZero nothing]
    linarith [b.value_le_limit]
  next =>
    split at found
    next nothing =>
      rw [value_of_isZero nothing]
      linarith [a.value_le_limit]
    next =>
      have less := fit_lt found
      rw [Nat.cast_natAbs] at less
      refine lt_of_le_of_lt ?_ less
      rw [← lengthened_div a (Nat.le_max_left a.scale b.scale),
        ← lengthened_div b (Nat.le_max_right a.scale b.scale), ← add_div]
      refine div_le_div_of_nonneg_right ?_ (by positivity)
      exact_mod_cast le_abs_self _

theorem value_two : two.value = 2 := by
  decide +kernel

theorem midpoint?_halved {a b middle : Decimal} (found : midpoint? a b = some middle) :
    Halved (a.value + b.value) middle.value := by
  obtain ⟨total, added, halves⟩ := Option.bind_eq_some_iff.mp found
  have half := div?_rounds halves
  rw [value_two] at half
  exact ⟨add?_lt added, total, add?_rounds added, half⟩

namespace Halved

variable {x middle : ℚ} {d : Decimal}

theorem atMost (halved : Halved x middle) (bound : x ≤ 2 * d.value) (roomy : Roomy d x) :
    middle ≤ d.value := by
  obtain ⟨total, sum, half⟩ := halved.steps
  refine half.atMost d ?_
  have most : total.value ≤ 2 * d.value := by
    rcases roomy with ⟨double, same⟩ | ⟨whole, same⟩
    · rw [← same] at bound ⊢
      exact sum.atMost double bound
    · have exactly := sum.atMost whole same.ge
      linarith
  linarith

theorem atLeast (halved : Halved x middle) (bound : 2 * d.value ≤ x) (roomy : Roomy d x) :
    d.value ≤ middle := by
  obtain ⟨total, sum, half⟩ := halved.steps
  refine half.atLeast d ?_
  have least : 2 * d.value ≤ total.value := by
    rcases roomy with ⟨double, same⟩ | ⟨whole, same⟩
    · rw [← same] at bound ⊢
      exact sum.atLeast double bound
    · have exactly := sum.atLeast whole same.le
      linarith
  linarith

/-- The middle is at most four units of the last place past a number that is at least as large. -/
theorem atMost_near (halved : Halved x middle) (nonneg : 0 ≤ d.value) (bound : x ≤ 2 * d.value) :
    middle ≤ d.value + 4 / 10 ^ d.scale := by
  by_cases placed : d.scale = 0
  · -- A whole number is either doubled exactly or above half of everything.
    have slack : (0 : ℚ) ≤ 4 / 10 ^ d.scale := by positivity
    refine le_trans ?_ (le_add_of_nonneg_right slack)
    rcases Nat.lt_or_ge limit (2 * d.coefficient) with large | short
    · obtain ⟨total, -, half⟩ := halved.steps
      refine half.atMost d ?_
      have most := total.value_le_limit
      have double : (limit : ℚ) < 2 * d.coefficient := by exact_mod_cast large
      rw [value_of_nonneg nonneg, magnitude, placed, pow_zero, div_one]
      linarith
    · exact halved.atMost bound (roomy_of_short short x)
  · obtain ⟨above, double, least, most⟩ := roomy_above nonneg placed
    exact (halved.atMost (by linarith) (Or.inl double)).trans most

/-- The middle is at most four units of the last place before a number that is at most as large. -/
theorem atLeast_near (halved : Halved x middle) (nonneg : 0 ≤ d.value) (bound : 2 * d.value ≤ x) :
    d.value - 4 / 10 ^ d.scale ≤ middle := by
  by_cases placed : d.scale = 0
  · -- The double of a whole number that is not doubled exactly is more than any sum.
    have slack : (0 : ℚ) ≤ 4 / 10 ^ d.scale := by positivity
    refine (sub_le_self _ slack).trans ?_
    have short : 2 * d.coefficient ≤ limit := by
      have less := bound.trans_lt halved.small
      rw [value_of_nonneg nonneg, magnitude, placed, pow_zero, div_one] at less
      exact Nat.le_of_lt_succ (by exact_mod_cast less)
    exact halved.atLeast bound (roomy_of_short short x)
  · obtain ⟨below, double, least, most⟩ := roomy_below nonneg placed
    exact least.trans (halved.atLeast (by linarith) (Or.inl double))

end Halved

end Decimal

end QuoteKeeper
