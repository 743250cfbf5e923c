import Mathlib.Algebra.Order.AbsoluteValue.Basic
import Mathlib.Data.Nat.Cast.Order.Field
import Mathlib.Tactic.FieldSimp
import Mathlib.Tactic.Ring
import QuoteKeeper.Proofs.Decimal.Value

/-!
# Rounding passes no decimal

A computed sum, difference or product is a nearest decimal at the finest scale that fits. So
rounding never carries it past any decimal: what is at most some decimal exactly is so after
rounding, and what is at least some decimal too. And what is at most some decimal always has a
value. This is all that comparisons between computed amounts need, at any size of amount.
-/

namespace QuoteKeeper

namespace Decimal

/-- No decimal lies between `x` and `y`, ends included on the side of `y`. -/
structure Rounds (x y : ℚ) : Prop where
  atMost : ∀ b : Decimal, x ≤ b.value → y ≤ b.value
  atLeast : ∀ b : Decimal, b.value ≤ x → b.value ≤ y

theorem Rounds.refl (x : ℚ) : Rounds x x := ⟨fun _ h => h, fun _ h => h⟩

/-- The number without its sign. -/
def magnitude (a : Decimal) : ℚ := a.coefficient / 10 ^ a.scale

theorem magnitude_nonneg (a : Decimal) : 0 ≤ a.magnitude := by
  rw [magnitude]
  positivity

theorem value_eq_magnitude (a : Decimal) :
    a.value = if a.negative then -a.magnitude else a.magnitude := by
  rw [value_eq, signed, magnitude]
  split
  · push_cast
    ring
  · rfl

theorem value_neg (a : Decimal) : a.neg.value = -a.value := by
  rw [value_eq_magnitude, value_eq_magnitude]
  cases sign : a.negative with
  | true => simp [neg, sign, magnitude]
  | false => simp [neg, sign, magnitude]

/-- Zero or more is its own magnitude. -/
theorem value_of_nonneg {a : Decimal} (h : 0 ≤ a.value) : a.value = a.magnitude := by
  rw [value_eq_magnitude] at h ⊢
  split
  next negative =>
    rw [if_pos negative] at h
    have := a.magnitude_nonneg
    linarith
  next => rfl

theorem Rounds.neg {x y : ℚ} (h : Rounds x y) : Rounds (-x) (-y) where
  atMost b bound := by
    have := h.atLeast b.neg (by rw [value_neg]; linarith)
    rw [value_neg] at this
    linarith
  atLeast b bound := by
    have := h.atMost b.neg (by rw [value_neg]; linarith)
    rw [value_neg] at this
    linarith

/-- A number with this sign and magnitude. -/
def withSign (negative : Bool) (x : ℚ) : ℚ := if negative then -x else x

theorem value_eq_withSign (a : Decimal) : a.value = withSign a.negative a.magnitude :=
  value_eq_magnitude a

theorem Rounds.withSign {x y : ℚ} (h : Rounds x y) (negative : Bool) :
    Rounds (withSign negative x) (withSign negative y) := by
  cases negative with
  | true => exact h.neg
  | false => exact h

theorem withSign_mul (p q : Bool) (x y : ℚ) :
    withSign p x * withSign q y = withSign (p != q) (x * y) := by
  cases p with
  | true => cases q with
    | true => simp [Decimal.withSign]
    | false => simp [Decimal.withSign]
  | false => cases q with
    | true => simp [Decimal.withSign]
    | false => simp [Decimal.withSign]

theorem ofParts?_eq_some {negative : Bool} {c s : Nat} {r : Decimal}
    (h : ofParts? negative c s = some r) :
    r.negative = negative ∧ r.coefficient = c ∧ r.scale = s := by
  rw [ofParts?] at h
  split at h
  · obtain rfl := Option.some.inj h
    exact ⟨rfl, rfl, rfl⟩
  · cases h

theorem ofParts?_value {negative : Bool} {c s : Nat} {r : Decimal}
    (h : ofParts? negative c s = some r) : r.value = withSign negative (c / 10 ^ s) := by
  obtain ⟨rfl, rfl, rfl⟩ := ofParts?_eq_some h
  exact value_eq_withSign r

theorem ofParts?_scale_le {negative : Bool} {c s : Nat} {r : Decimal}
    (h : ofParts? negative c s = some r) : s ≤ places := by
  obtain ⟨-, -, rfl⟩ := ofParts?_eq_some h
  exact r.scale_le

/-! ### The nearest coefficient -/

theorem halfEven_near (n : Nat) {d : Nat} (positive : 0 < d) :
    |(n : ℚ) / d - halfEven n d| ≤ 1 / 2 := by
  have split := Nat.div_add_mod n d
  have less := Nat.mod_lt n positive
  have exactly : (n : ℚ) / d = (n / d : ℕ) + ((n % d : ℕ) : ℚ) / d := by
    rw [← Nat.div_add_mod n d, Nat.div_add_mod]
    field_simp
    exact_mod_cast split.symm
  have room : (0 : ℚ) < d := by exact_mod_cast positive
  rw [exactly, halfEven, abs_le]
  split
  next up =>
    have half : (d : ℚ) ≤ 2 * (n % d : ℕ) := by
      rcases up with more | ⟨tie, -⟩
      · exact_mod_cast more.le
      · exact_mod_cast tie.ge
    have below : ((n % d : ℕ) : ℚ) / d ≤ 1 := by
      rw [div_le_one room]
      exact_mod_cast less.le
    have above : 1 / 2 ≤ ((n % d : ℕ) : ℚ) / d := by
      rw [div_le_div_iff₀ two_pos room]
      linarith
    push_cast at *
    constructor
    · linarith
    · linarith
  next down =>
    rw [not_or, not_lt] at down
    have half : 2 * ((n % d : ℕ) : ℚ) ≤ d := by exact_mod_cast down.1
    have above : 0 ≤ ((n % d : ℕ) : ℚ) / d := by positivity
    have below : ((n % d : ℕ) : ℚ) / d ≤ 1 / 2 := by
      rw [div_le_div_iff₀ room two_pos]
      linarith
    constructor
    · linarith
    · linarith

theorem halfEven_le_succ (n d : Nat) : halfEven n d ≤ n / d + 1 := by
  rw [halfEven]
  split
  · exact le_refl _
  · exact Nat.le_succ _

/-- The coefficient is nearest to `x` at this many places, and one place more would not fit. -/
structure Nearest (x : ℚ) (coefficient scale : Nat) : Prop where
  near : |x * 10 ^ scale - coefficient| ≤ 1 / 2
  finest : scale = places ∨ (limit : ℚ) < x * 10 ^ (scale + 1)

/-- A decimal that fits the scale is a whole number there. -/
theorem magnitude_mul_pow (b : Decimal) {s : Nat} (fits : b.scale ≤ s) :
    b.magnitude * 10 ^ s = (b.coefficient * 10 ^ (s - b.scale) : ℕ) := by
  rw [magnitude, ← Nat.sub_add_cancel fits, pow_add, Nat.add_sub_cancel]
  push_cast
  field_simp

theorem magnitude_mul_pow_le (b : Decimal) {s : Nat} (coarse : s ≤ b.scale) :
    b.magnitude * 10 ^ s ≤ limit := by
  have whole : b.magnitude * 10 ^ b.scale = b.coefficient := by
    rw [magnitude, div_mul_cancel₀ _ (by positivity)]
  have most : (b.coefficient : ℚ) ≤ limit := by exact_mod_cast b.coefficient_le
  calc b.magnitude * 10 ^ s ≤ b.magnitude * 10 ^ b.scale :=
        mul_le_mul_of_nonneg_left (pow_le_pow_right₀ (by norm_num) coarse) b.magnitude_nonneg
    _ ≤ limit := whole ▸ most

theorem limit_eq : limit = 79228162514264337593543950335 := rfl

namespace Nearest

variable {x : ℚ} {c s : Nat}

theorem le_magnitude (h : Nearest x c s) (b : Decimal) (above : x ≤ b.magnitude) :
    (c : ℚ) / 10 ^ s ≤ b.magnitude := by
  have power : (0 : ℚ) < 10 ^ s := by positivity
  rw [div_le_iff₀ power]
  rcases Nat.lt_or_ge s b.scale with coarse | fits
  · -- A decimal with more places that is not below `x` would fit there, and so would `x`.
    exfalso
    rcases h.finest with all | full
    · exact absurd b.scale_le (by rw [all, places] at coarse; omega)
    · have inside : b.magnitude * 10 ^ (s + 1) ≤ limit := magnitude_mul_pow_le b coarse
      have larger : x * 10 ^ (s + 1) ≤ b.magnitude * 10 ^ (s + 1) :=
        mul_le_mul_of_nonneg_right above (by positivity)
      linarith
  · have larger := mul_le_mul_of_nonneg_right above power.le
    rw [magnitude_mul_pow b fits] at larger ⊢
    have near := (abs_le.mp h.near).1
    have close : (c : ℚ) < (b.coefficient * 10 ^ (s - b.scale) : ℕ) + 1 := by linarith
    exact_mod_cast Nat.lt_succ_iff.mp (by exact_mod_cast close)

theorem magnitude_le (h : Nearest x c s) (b : Decimal) (below : b.magnitude ≤ x) :
    b.magnitude ≤ (c : ℚ) / 10 ^ s := by
  have power : (0 : ℚ) < 10 ^ s := by positivity
  rw [le_div_iff₀ power]
  have near := (abs_le.mp h.near).2
  rcases Nat.lt_or_ge s b.scale with coarse | fits
  · -- Ten times the coefficient is past the limit already, which the decimal is not.
    rcases h.finest with all | full
    · exact absurd b.scale_le (by rw [all, places] at coarse; omega)
    · have inside : b.magnitude * 10 ^ (s + 1) ≤ limit := magnitude_mul_pow_le b coarse
      rw [pow_succ] at inside full
      have large : (7922816251426433759354395033 : ℚ) < c := by
        rw [limit_eq] at full
        push_cast at full
        linarith
      have whole : 7922816251426433759354395034 ≤ c := by exact_mod_cast large
      have whole' : (7922816251426433759354395034 : ℚ) ≤ c := by exact_mod_cast whole
      rw [limit_eq] at inside
      push_cast at inside
      linarith
  · have smaller := mul_le_mul_of_nonneg_right below power.le
    rw [magnitude_mul_pow b fits] at smaller ⊢
    have close : ((b.coefficient * 10 ^ (s - b.scale) : ℕ) : ℚ) < c + 1 := by linarith
    exact_mod_cast Nat.lt_succ_iff.mp (by exact_mod_cast close)

theorem rounds (h : Nearest x c s) (nonneg : 0 ≤ x) : Rounds x (c / 10 ^ s) where
  atMost b bound := by
    have same := value_of_nonneg (nonneg.trans bound)
    rw [same] at bound ⊢
    exact h.le_magnitude b bound
  atLeast b bound := by
    rcases le_or_gt 0 b.value with zero | negative
    · have same := value_of_nonneg zero
      rw [same] at bound ⊢
      exact h.magnitude_le b bound
    · exact negative.le.trans (by positivity)

/-- A coefficient that rounds up to one past the limit loses its last place, and stays nearest. -/
theorem shorten (near : |x * 10 ^ (s + 1) - (limit + 1 : ℕ)| ≤ 1 / 2) :
    Nearest x ((limit + 1) / 10 + 1) s := by
  rw [limit_eq] at near
  obtain ⟨low, high⟩ := abs_le.mp near
  rw [pow_succ] at low high
  have digits : (limit + 1) / 10 + 1 = 7922816251426433759354395034 := by
    rw [limit_eq]
  rw [digits]
  push_cast at low high
  refine ⟨?_, Or.inr ?_⟩
  · rw [abs_le]
    push_cast
    constructor
    · linarith
    · linarith
  · rw [limit_eq, pow_succ]
    push_cast
    linarith

end Nearest

/-! ### Bringing a number within bounds -/

theorem excess_le_iff (n k : Nat) : excess n ≤ k ↔ n / 10 ^ k ≤ limit := by
  induction n using excess.induct generalizing k with
  | case1 n small =>
    rw [excess, if_pos small]
    exact iff_of_true (Nat.zero_le k) ((Nat.div_le_self n _).trans small)
  | case2 n large ih =>
    rw [excess, if_neg large]
    cases k with
    | zero => simpa using large
    | succ k =>
      rw [Nat.succ_le_succ_iff, ih, Nat.div_div_eq_div_mul, pow_succ, mul_comm]

/-- One digit fewer dropped would leave too long a coefficient. -/
theorem limit_lt_of_excess {n s k : Nat} (within : k ≤ s) (some : 0 < k) (chosen : k ≤ excess n) :
    (limit : ℚ) < (n : ℚ) / 10 ^ s * 10 ^ (s - k + 1) := by
  have long : limit < n / 10 ^ (k - 1) := by
    rw [← not_le, ← excess_le_iff]
    omega
  have power : s = (k - 1) + (s - k + 1) := by omega
  have exactly : (n : ℚ) / 10 ^ s * 10 ^ (s - k + 1) = n / (10 ^ (k - 1) : ℕ) := by
    conv_lhs => rw [power, pow_add]
    have same : k - 1 + (s - k + 1) - k + 1 = s - k + 1 := by omega
    rw [same]
    push_cast
    field_simp
  have floor : ((n / 10 ^ (k - 1) : ℕ) : ℚ) ≤ n / (10 ^ (k - 1) : ℕ) := Nat.cast_div_le
  rw [exactly]
  exact lt_of_lt_of_le (by exact_mod_cast long) floor

/-- A coefficient without its excess rounds up to one past the limit at most. -/
theorem halfEven_eq_succ {n k : Nat} (enough : excess n ≤ k)
    (beyond : ¬ halfEven n (10 ^ k) ≤ limit) : halfEven n (10 ^ k) = limit + 1 := by
  have small := (excess_le_iff n k).mp enough
  have := halfEven_le_succ n (10 ^ k)
  omega

/-- What `fit` finds is nearest to the number at the finest scale. -/
theorem fit_rounds {negative : Bool} {n s : Nat} {r : Decimal} (h : fit negative n s = some r) :
    Rounds (withSign negative (n / 10 ^ s)) r.value := by
  simp only [fit, Nat.pow_eq] at h
  generalize dropped : Nat.max (s - places) (excess n) = k at h
  change Max.max (s - places) (excess n) = k at dropped
  split at h
  next => exact nomatch h
  next enough =>
    have within : k ≤ s := not_lt.mp enough
    have shifted : (n : ℚ) / 10 ^ s * 10 ^ (s - k) = n / (10 ^ k : ℕ) := by
      rw [← Nat.sub_add_cancel within, pow_add, Nat.add_sub_cancel]
      push_cast
      field_simp
    have near : |(n : ℚ) / 10 ^ s * 10 ^ (s - k) - halfEven n (10 ^ k)| ≤ 1 / 2 := by
      rw [shifted]
      exact halfEven_near n (by positivity)
    have nonneg : (0 : ℚ) ≤ n / 10 ^ s := by positivity
    split at h
    next fits =>
      rw [ofParts?_value h]
      refine Rounds.withSign ?_ negative
      rcases Nat.eq_zero_or_pos k with rfl | some
      · have exactly : halfEven n 1 = n := by simp [halfEven, Nat.mod_one]
        rw [pow_zero, exactly, Nat.sub_zero]
        exact Rounds.refl _
      · refine Nearest.rounds ⟨near, ?_⟩ nonneg
        rcases Nat.lt_or_ge (s - places) k with more | all
        · right
          exact limit_lt_of_excess within some (by omega)
        · left
          have := ofParts?_scale_le h
          have bound : s - places ≤ k := dropped ▸ Nat.le_max_left _ _
          rw [places] at *
          omega
    next beyond =>
      split at h
      next => exact nomatch h
      next more =>
        have top := halfEven_eq_succ (dropped ▸ Nat.le_max_right _ _) beyond
        have scale : s - k = (s - k - 1) + 1 := by omega
        rw [ofParts?_value h, top]
        refine Rounds.withSign ?_ negative
        have last : halfEven (limit + 1) 10 = (limit + 1) / 10 + 1 := by decide
        rw [last]
        rw [scale, top] at near
        exact (Nearest.shorten near).rounds nonneg

/-- What is at most some decimal has a nearest one. -/
theorem fit_isSome {n s : Nat} {b : Decimal} (within : (n : ℚ) / 10 ^ s ≤ b.magnitude)
    (negative : Bool) : ∃ r, fit negative n s = some r := by
  have small : n ≤ limit * 10 ^ s := by
    have most : (n : ℚ) / 10 ^ s ≤ limit := by
      have := magnitude_mul_pow_le b (Nat.zero_le _)
      rw [pow_zero, mul_one] at this
      exact within.trans this
    rw [div_le_iff₀ (by positivity)] at most
    exact_mod_cast most
  have short : excess n ≤ s := by
    rw [excess_le_iff]
    exact Nat.div_le_of_le_mul (by rwa [mul_comm])
  simp only [fit, Nat.pow_eq]
  generalize dropped : Nat.max (s - places) (excess n) = k
  change Max.max (s - places) (excess n) = k at dropped
  have scale : s - k ≤ places := by omega
  rw [if_neg (by omega)]
  split
  next fits => exact ⟨_, dif_pos ⟨fits, scale⟩⟩
  next beyond =>
    have top := halfEven_eq_succ (by omega) beyond
    have last : halfEven (limit + 1) 10 ≤ limit := by decide
    rw [top, if_neg]
    · exact ⟨_, dif_pos ⟨last, by omega⟩⟩
    · -- A whole number at most the limit does not round past it.
      rintro rfl
      have near := halfEven_near n (d := 10 ^ s) (by positivity)
      have high := (abs_le.mp near).1
      have low : (n : ℚ) / (10 ^ s : ℕ) ≤ limit := by
        rw [div_le_iff₀ (by positivity)]
        exact_mod_cast small
      rw [top] at high
      push_cast at high low
      linarith

/-! ### Sums and products -/

theorem withSign_natAbs (n : Int) (d : ℚ) :
    withSign (decide (n < 0)) ((n.natAbs : ℚ) / d) = n / d := by
  rw [Nat.cast_natAbs]
  rcases lt_or_ge n 0 with negative | nonneg
  · rw [withSign, if_pos (decide_eq_true negative), abs_of_neg negative]
    push_cast
    ring
  · rw [withSign, if_neg (by simpa using nonneg), abs_of_nonneg nonneg]

theorem lengthened_div (a : Decimal) {s : Nat} (fits : a.scale ≤ s) :
    ((a.lengthened (s - a.scale) : Int) : ℚ) / 10 ^ s = a.value := by
  rw [lengthened_cast, value_eq, ← Nat.sub_add_cancel fits, pow_add, Nat.add_sub_cancel]
  field_simp

theorem add?_rounds {a b r : Decimal} (h : add? a b = some r) :
    Rounds (a.value + b.value) r.value := by
  rw [add?] at h
  split at h
  next nothing =>
    obtain rfl := Option.some.inj h
    rw [value_of_isZero nothing, zero_add]
    exact Rounds.refl _
  next =>
    split at h
    next nothing =>
      obtain rfl := Option.some.inj h
      rw [value_of_isZero nothing, add_zero]
      exact Rounds.refl _
    next =>
      have rounded := fit_rounds h
      rw [withSign_natAbs] at rounded
      push_cast at rounded
      rw [add_div, lengthened_div a (Nat.le_max_left _ _),
        lengthened_div b (Nat.le_max_right _ _)] at rounded
      exact rounded

theorem value_mul (a b : Decimal) :
    a.value * b.value = withSign (a.negative != b.negative)
      (((a.coefficient * b.coefficient : ℕ) : ℚ) / 10 ^ (a.scale + b.scale)) := by
  rw [value_eq_withSign, value_eq_withSign b, withSign_mul, magnitude, magnitude, pow_add]
  push_cast
  congr 1
  field_simp

/-- Two short operands with many places give less than half of the last place. -/
theorem mul_tiny {a b : Decimal} (short : bothShort a b = true) (long : 47 < a.scale + b.scale) :
    Nearest (((a.coefficient * b.coefficient : ℕ) : ℚ) / 10 ^ (a.scale + b.scale)) 0 places where
  near := by
    obtain ⟨left, right⟩ := of_decide_eq_true short
    have product : a.coefficient * b.coefficient ≤ wordBound * wordBound :=
      Nat.mul_le_mul left.le right.le
    have small : ((a.coefficient * b.coefficient : ℕ) : ℚ) ≤ 10 ^ 20 / 2 := by
      have : ((a.coefficient * b.coefficient : ℕ) : ℚ) ≤ (wordBound * wordBound : ℕ) := by
        exact_mod_cast product
      refine this.trans ?_
      rw [wordBound]
      norm_num
    have power : (10 : ℚ) ^ 48 ≤ 10 ^ (a.scale + b.scale) :=
      pow_le_pow_right₀ (by norm_num) long
    rw [Nat.cast_zero, sub_zero, abs_of_nonneg (by positivity), div_mul_eq_mul_div,
      div_le_div_iff₀ (by positivity) two_pos, places]
    linarith
  finest := Or.inl rfl

theorem mul?_rounds {a b r : Decimal} (h : mul? a b = some r) :
    Rounds (a.value * b.value) r.value := by
  rw [mul?] at h
  split at h
  next nothing =>
    obtain rfl := Option.some.inj h
    have product : a.value * b.value = 0 := by
      rw [mul_eq_zero]
      exact (Bool.or_eq_true_iff.mp nothing).imp value_of_isZero value_of_isZero
    rw [product, value_zero]
    exact Rounds.refl _
  next =>
    split at h
    next tiny =>
      obtain rfl := Option.some.inj h
      obtain ⟨short, long⟩ := Bool.and_eq_true_iff.mp tiny
      have rounded := ((mul_tiny short (of_decide_eq_true long)).rounds (by positivity)).withSign
        (a.negative != b.negative)
      rw [← value_mul, Nat.cast_zero, zero_div] at rounded
      rw [value_zero]
      simpa [withSign] using rounded
    next =>
      obtain ⟨product, found, ends⟩ := Option.bind_eq_some_iff.mp h
      have rounded := fit_rounds found
      rw [← value_mul] at rounded
      split at ends
      next unsigned =>
        obtain rfl := Option.some.inj ends
        have nothing := (Bool.and_eq_true_iff.mp unsigned).1
        have still : ({ product with negative := false } : Decimal).isZero = true := nothing
        rw [value_of_isZero nothing] at rounded
        rw [value_of_isZero still]
        exact rounded
      next =>
        obtain rfl := Option.some.inj ends
        exact rounded

/-- A product that is at most some decimal has a value. -/
theorem mul?_isSome {a b c : Decimal} (within : a.magnitude * b.magnitude ≤ c.magnitude) :
    ∃ r, mul? a b = some r := by
  have product : ((a.coefficient * b.coefficient : ℕ) : ℚ) / 10 ^ (a.scale + b.scale) ≤
      c.magnitude := by
    refine le_of_eq_of_le ?_ within
    rw [magnitude, magnitude, pow_add]
    push_cast
    field_simp
  obtain ⟨r, found⟩ := fit_isSome product (a.negative != b.negative)
  rw [mul?]
  split
  · exact ⟨_, rfl⟩
  · split
    · exact ⟨_, rfl⟩
    · rw [found]
      dsimp only [Option.bind_eq_bind, Option.bind_some]
      split
      · exact ⟨_, rfl⟩
      · exact ⟨_, rfl⟩

end Decimal

end QuoteKeeper
