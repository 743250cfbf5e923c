import Mathlib.Tactic.Linarith
import Mathlib.Tactic.Positivity
import QuoteKeeper.Market.BidAsk

/-!
# The number that a decimal stands for

The order of decimals is that of their numbers, whatever the scales. A computed price is exact if it
has a value and that is the number asked for, neither rounded nor lost.
-/

namespace QuoteKeeper

namespace Decimal

/-- The coefficient with its sign, divided by the power of ten. -/
def value (a : Decimal) : Rat := mkRat a.signed (10 ^ a.scale)

theorem value_eq (a : Decimal) : a.value = (a.signed : ℚ) / 10 ^ a.scale := by
  rw [value, Rat.mkRat_eq_div]
  norm_num

theorem lengthened_cast (a : Decimal) (zeros : Nat) :
    ((a.lengthened zeros : Int) : ℚ) = a.signed * 10 ^ zeros := by
  simp [lengthened]

theorem lt_iff_value {a b : Decimal} : a < b ↔ a.value < b.value := by
  change a.lengthened b.scale < b.lengthened a.scale ↔ _
  rw [value_eq, value_eq, div_lt_div_iff₀ (by positivity) (by positivity), ← lengthened_cast,
    ← lengthened_cast, Int.cast_lt]

theorem le_iff_value {a b : Decimal} : a ≤ b ↔ a.value ≤ b.value := by
  change a.lengthened b.scale ≤ b.lengthened a.scale ↔ _
  rw [value_eq, value_eq, div_le_div_iff₀ (by positivity) (by positivity), ← lengthened_cast,
    ← lengthened_cast, Int.cast_le]

theorem lt_of_not_le {a b : Decimal} (h : ¬ a ≤ b) : b < a := by
  rw [le_iff_value, not_le] at h
  exact lt_iff_value.mpr h

theorem le_of_not_lt {a b : Decimal} (h : ¬ a < b) : b ≤ a := by
  rw [lt_iff_value, not_lt] at h
  exact le_iff_value.mpr h

theorem value_zero : zero.value = 0 := by
  rw [value_eq]
  simp [zero, signed]

theorem value_of_isZero {a : Decimal} (h : a.isZero = true) : a.value = 0 := by
  have nothing : a.coefficient = 0 := by simpa [isZero] using h
  simp [value_eq, signed, nothing]

theorem value_pos_iff {a : Decimal} : zero < a ↔ 0 < a.value := by
  rw [lt_iff_value, value_zero]

theorem value_pos_of_positive? {a b : Decimal} (h : a.positive? = some b) :
    a = b ∧ 0 < b.value := by
  rw [positive?] at h
  split at h
  next positive =>
    obtain rfl := Option.some.inj h
    exact ⟨rfl, value_pos_iff.mp positive⟩
  next => exact nomatch h

theorem max_value (a b : Decimal) : (a.max b).value = Max.max a.value b.value := by
  rw [max]
  split
  next less => rw [max_eq_right (lt_iff_value.mp less).le]
  next more => rw [max_eq_left (not_lt.mp fun less => more (lt_iff_value.mpr less))]

/-- A computed value is there and is this number. -/
def Exact (computed : Option Decimal) (number : Rat) : Prop := computed.map value = some number

instance (computed : Option Decimal) (number : Rat) : Decidable (Exact computed number) :=
  inferInstanceAs (Decidable (_ = _))

theorem Exact.value_eq {computed : Option Decimal} {number : Rat}
    (holds : Exact computed number) {a : Decimal} (found : computed = some a) :
    a.value = number := by
  rw [Exact, found] at holds
  exact Option.some.inj holds

theorem Exact.isSome {computed : Option Decimal} {number : Rat}
    (holds : Exact computed number) : ∃ a, computed = some a ∧ a.value = number :=
  Option.map_eq_some_iff.mp holds

end Decimal

end QuoteKeeper
