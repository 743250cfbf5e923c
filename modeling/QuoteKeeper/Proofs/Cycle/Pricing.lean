import QuoteKeeper.Cycle.Proposal
import QuoteKeeper.Proofs.Decimal.Middle

/-!
# How new orders are priced

A new order is priced at the boundary of its side, or half way from there to the best price of its
side if that lies behind the boundary. It should then lie between the two, and does if that best
price and the boundary have 28 digits at most. The sum of longer ones can be rounded before it is
halved, and the price then be past either of them by a few units of the last place.
-/

namespace QuoteKeeper

open Decimal

namespace SidePlan

/-- How a buy can get its price. -/
inductive BuyPriced (boundary bid distance : Decimal) : Decimal → Prop
  | alone (nobody : bid ≤ zero) : BuyPriced boundary bid distance boundary
  | boundary {farthest : Decimal} (somebody : zero < bid)
      (far : boundary.above? distance = some farthest) (near : bid ≤ farthest)
      (behind : boundary ≤ bid) : BuyPriced boundary bid distance boundary
  | middle {farthest price : Decimal} (somebody : zero < bid)
      (far : boundary.above? distance = some farthest) (near : bid ≤ farthest)
      (ahead : bid < boundary) (half : boundary.midpoint? bid = some price) :
      BuyPriced boundary bid distance price

/-- How a sell can get its price. -/
inductive SellPriced (boundary ask distance : Decimal) : Decimal → Prop
  | alone (nobody : ask ≤ zero) : SellPriced boundary ask distance boundary
  | boundary {nearest : Decimal} (somebody : zero < ask)
      (far : boundary.below? distance = some nearest) (near : nearest ≤ ask)
      (behind : ask ≤ boundary) : SellPriced boundary ask distance boundary
  | middle {nearest price : Decimal} (somebody : zero < ask)
      (far : boundary.below? distance = some nearest) (near : nearest ≤ ask)
      (ahead : boundary < ask) (half : boundary.midpoint? ask = some price) :
      SellPriced boundary ask distance price

variable {boundary best distance price : Decimal}

theorem buy_priced (plan : buy? boundary best distance = some (.place price)) :
    BuyPriced boundary best distance price := by
  rw [buy?] at plan
  split at plan
  next nobody =>
    cases plan
    exact .alone nobody
  next somebody =>
    obtain ⟨farthest, far, decides⟩ := Option.bind_eq_some_iff.mp plan
    split at decides
    next => cases decides
    next near =>
      split at decides
      next ahead =>
        obtain ⟨middle, half, placed⟩ := Option.bind_eq_some_iff.mp decides
        cases placed
        exact .middle (lt_of_not_le somebody) far (le_of_not_lt near) ahead half
      next behind =>
        cases decides
        exact .boundary (lt_of_not_le somebody) far (le_of_not_lt near) (le_of_not_lt behind)

theorem sell_priced (plan : sell? boundary best distance = some (.place price)) :
    SellPriced boundary best distance price := by
  rw [sell?] at plan
  split at plan
  next nobody =>
    cases plan
    exact .alone nobody
  next somebody =>
    obtain ⟨nearest, far, decides⟩ := Option.bind_eq_some_iff.mp plan
    split at decides
    next => cases decides
    next near =>
      split at decides
      next ahead =>
        obtain ⟨middle, half, placed⟩ := Option.bind_eq_some_iff.mp decides
        cases placed
        exact .middle (lt_of_not_le somebody) far (le_of_not_lt near) ahead half
      next behind =>
        cases decides
        exact .boundary (lt_of_not_le somebody) far (le_of_not_lt near) (le_of_not_lt behind)

/-- The price does not exceed the bound if the double of the bound, or the sum that was halved for
the price, can be written; and never by more than four units of the bound's last place. -/
structure StaysBelow (price bound : Decimal) (sum : ℚ) : Prop where
  exactly : Roomy bound sum → price ≤ bound
  nearly : price.value ≤ bound.value + 4 / 10 ^ bound.scale

/-- The same for a bound that the price should not fall below. -/
structure StaysAbove (price bound : Decimal) (sum : ℚ) : Prop where
  exactly : Roomy bound sum → bound ≤ price
  nearly : bound.value - 4 / 10 ^ bound.scale ≤ price.value

theorem staysBelow_of_le {bound : Decimal} {sum : ℚ} (order : price.value ≤ bound.value) :
    StaysBelow price bound sum :=
  ⟨fun _ => le_iff_value.mpr order, order.trans (le_add_of_nonneg_right (by positivity))⟩

theorem staysAbove_of_le {bound : Decimal} {sum : ℚ} (order : bound.value ≤ price.value) :
    StaysAbove price bound sum :=
  ⟨fun _ => le_iff_value.mpr order, (sub_le_self _ (by positivity)).trans order⟩

theorem staysBelow_of_halved {bound : Decimal} {sum : ℚ} (halved : Halved sum price.value)
    (nonneg : 0 ≤ bound.value) (less : sum ≤ 2 * bound.value) : StaysBelow price bound sum :=
  ⟨fun roomy => le_iff_value.mpr (halved.atMost less roomy), halved.atMost_near nonneg less⟩

theorem staysAbove_of_halved {bound : Decimal} {sum : ℚ} (halved : Halved sum price.value)
    (nonneg : 0 ≤ bound.value) (more : 2 * bound.value ≤ sum) : StaysAbove price bound sum :=
  ⟨fun roomy => le_iff_value.mpr (halved.atLeast more roomy), halved.atLeast_near nonneg more⟩

theorem BuyPriced.staysBelow (priced : BuyPriced boundary best distance price)
    (nonneg : 0 ≤ boundary.value) : StaysBelow price boundary (boundary.value + best.value) := by
  cases priced with
  | alone | boundary => exact staysBelow_of_le (le_refl _)
  | middle somebody far near ahead half =>
    have order := lt_iff_value.mp ahead
    exact staysBelow_of_halved (midpoint?_halved half) nonneg (by linarith)

theorem BuyPriced.staysAbove (priced : BuyPriced boundary best distance price)
    (ahead : best < boundary) : StaysAbove price best (boundary.value + best.value) := by
  have order := lt_iff_value.mp ahead
  cases priced with
  | alone | boundary => exact staysAbove_of_le order.le
  | middle somebody far near ahead half =>
    have shown := value_pos_iff.mp somebody
    exact staysAbove_of_halved (midpoint?_halved half) shown.le (by linarith)

theorem SellPriced.staysAbove (priced : SellPriced boundary best distance price)
    (nonneg : 0 ≤ boundary.value) : StaysAbove price boundary (boundary.value + best.value) := by
  cases priced with
  | alone | boundary => exact staysAbove_of_le (le_refl _)
  | middle somebody far near ahead half =>
    have order := lt_iff_value.mp ahead
    exact staysAbove_of_halved (midpoint?_halved half) nonneg (by linarith)

theorem SellPriced.staysBelow (priced : SellPriced boundary best distance price)
    (ahead : boundary < best) : StaysBelow price best (boundary.value + best.value) := by
  have order := lt_iff_value.mp ahead
  cases priced with
  | alone | boundary => exact staysBelow_of_le order.le
  | middle somebody far near ahead half =>
    have shown := value_pos_iff.mp somebody
    exact staysBelow_of_halved (midpoint?_halved half) shown.le (by linarith)

/-- A buy is priced at most at its boundary, and at least at the best bid if that is below the
boundary. A sell is priced at least at its boundary, and at most at the best ask if that is above
the boundary. As it stands each of these is sure if the number that the price should not pass can be
doubled, or the two added, without rounding, as all of up to 28 digits can; otherwise the price may
pass that number by up to four units of its last place, and by no more. -/
theorem place_bounded (positive : zero < boundary) :
    (buy? boundary best distance = some (.place price) →
      StaysBelow price boundary (boundary.value + best.value) ∧
      (best < boundary → StaysAbove price best (boundary.value + best.value))) ∧
    (sell? boundary best distance = some (.place price) →
      StaysAbove price boundary (boundary.value + best.value) ∧
      (boundary < best → StaysBelow price best (boundary.value + best.value))) := by
  have nonneg := (value_pos_iff.mp positive).le
  constructor
  · intro plan
    exact ⟨(buy_priced plan).staysBelow nonneg, (buy_priced plan).staysAbove⟩
  · intro plan
    exact ⟨(sell_priced plan).staysAbove nonneg, (sell_priced plan).staysBelow⟩

/-- Half way between the ends of the default market. -/
theorem place_bounded_small : zero < (0.000995 : Decimal) ∧
    buy? 0.000995 0.00098 0.02 = some (.place 0.00098750) ∧
    (0.00098750 : Decimal) ≤ 0.000995 ∧ (0.00098 : Decimal) ≤ 0.00098750 ∧
    sell? 0.00110055 0.00115 0.02 = some (.place 0.0011252750) ∧
    (0.00110055 : Decimal) ≤ 0.0011252750 ∧ (0.0011252750 : Decimal) ≤ 0.00115 := by
  have positive : zero < (0.000995 : Decimal) := by decide +kernel
  have bought : buy? 0.000995 0.00098 0.02 = some (.place 0.00098750) := by decide +kernel
  have sold : sell? 0.00110055 0.00115 0.02 = some (.place 0.0011252750) := by decide +kernel
  obtain ⟨atMost, atLeast⟩ := (place_bounded positive).1 bought
  obtain ⟨atLeast', atMost'⟩ := (place_bounded (by decide +kernel)).2 sold
  exact ⟨positive, bought, atMost.exactly (roomy_of_short (by decide +kernel) _),
    (atLeast (by decide +kernel)).exactly (roomy_of_short (by decide +kernel) _), sold,
    atLeast'.exactly (roomy_of_short (by decide +kernel) _),
    (atMost' (by decide +kernel)).exactly (roomy_of_short (by decide +kernel) _)⟩

/-- With 29 digits the price can be past the boundary, and past the best price as well. -/
theorem place_past :
    (∃ price, buy? 7.9228162514264337593543950334 7.9228162514264337593543950332 0.02 =
      some (.place price) ∧ (7.9228162514264337593543950334 : Decimal) < price) ∧
    (∃ price, buy? 7.9228162514264337593543950333 7.9228162514264337593543950331 0.02 =
      some (.place price) ∧ price < (7.9228162514264337593543950331 : Decimal)) ∧
    (∃ price, sell? 7.9228162514264337593543950331 7.9228162514264337593543950333 0.02 =
      some (.place price) ∧ price < (7.9228162514264337593543950331 : Decimal)) ∧
    (∃ price, sell? 7.9228162514264337593543950332 7.9228162514264337593543950334 0.02 =
      some (.place price) ∧ (7.9228162514264337593543950334 : Decimal) < price) := by
  refine ⟨⟨7.9228162514264337593543950335, ?_⟩, ⟨7.922816251426433759354395033, ?_⟩,
    ⟨7.922816251426433759354395033, ?_⟩, ⟨7.9228162514264337593543950335, ?_⟩⟩
  all_goals decide +kernel

end SidePlan

end QuoteKeeper
