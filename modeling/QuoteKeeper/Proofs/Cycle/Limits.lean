import QuoteKeeper.Proofs.Cycle.Plans
import QuoteKeeper.Proofs.Cycle.Pricing

/-!
# Which prices orders can have

If nothing is unprofitable, the resting buys of a priced pair are at most at the threshold of the
bid and the resting sells at least at that of the ask. An accepted buy is at most at the boundary of
its side and an accepted sell at least at its own, and both boundaries are above zero. All of it is
about numbers, for prices that are computed exactly.
-/

namespace QuoteKeeper

open Decimal

namespace SidePlan

theorem buy_le {boundary bid distance price : Decimal}
    (plan : buy? boundary bid distance = some (.place price))
    (half : zero < bid → bid < boundary →
      Exact (boundary.midpoint? bid) ((boundary.value + bid.value) / 2)) :
    price.value ≤ boundary.value := by
  cases buy_priced plan with
  | alone | boundary => exact le_refl _
  | middle somebody far near ahead found =>
    rw [(half somebody ahead).value_eq found]
    have less := lt_iff_value.mp ahead
    linarith

theorem le_sell {boundary ask distance price : Decimal}
    (plan : sell? boundary ask distance = some (.place price))
    (half : zero < ask → boundary < ask →
      Exact (boundary.midpoint? ask) ((boundary.value + ask.value) / 2)) :
    boundary.value ≤ price.value := by
  cases sell_priced plan with
  | alone | boundary => exact le_refl _
  | middle somebody far near ahead found =>
    rw [(half somebody ahead).value_eq found]
    have less := lt_iff_value.mp ahead
    linarith

end SidePlan

namespace CancelPlan

variable {settings : Settings} {prices : Prices} {orders : List RestingOrder} {p : Pair}
  {q : PairPrices} {o : RestingOrder}

/-- If nothing is unprofitable, nothing is past the reference of a priced pair. -/
theorem pastReference_eq_nil
    (nothing : (unprofitable settings prices ⟨settings.pairs, orders⟩).withdrawals = [])
    (listed : p ∈ settings.pairs) (known : prices.get? p = some q) :
    pastReference settings orders p q.reference = [] := by
  have all := unprofitable_orders settings prices orders
  rw [nothing, List.map_nil] at all
  have here := List.flatMap_eq_nil_iff.mp all.symm p listed
  rwa [known] at here

theorem kept_buy_le
    (nothing : (unprofitable settings prices ⟨settings.pairs, orders⟩).withdrawals = [])
    (listed : p ∈ settings.pairs) (known : prices.get? p = some q)
    (exactly : Exact (q.reference.bid.below? settings.buy.unprofitable)
      (q.reference.bid.value * (1 - settings.buy.unprofitable.value)))
    (member : o ∈ orders) (pair : o.pair = p) (side : o.side = .buy) :
    o.price.value ≤ q.reference.bid.value * (1 - settings.buy.unprofitable.value) := by
  obtain ⟨threshold, computed, number⟩ := exactly.isSome
  have past := (List.append_eq_nil_iff.mp (pastReference_eq_nil nothing listed known)).1
  have kept := List.filter_eq_nil_iff.mp past o (RestingOrder.mem_on.mpr ⟨member, pair, side⟩)
  rw [computed, Option.any_some, decide_eq_true_eq, lt_iff_value, number] at kept
  exact not_lt.mp kept

theorem le_kept_sell
    (nothing : (unprofitable settings prices ⟨settings.pairs, orders⟩).withdrawals = [])
    (listed : p ∈ settings.pairs) (known : prices.get? p = some q)
    (exactly : Exact (q.reference.ask.above? settings.sell.unprofitable)
      (q.reference.ask.value * (1 + settings.sell.unprofitable.value)))
    (member : o ∈ orders) (pair : o.pair = p) (side : o.side = .sell) :
    q.reference.ask.value * (1 + settings.sell.unprofitable.value) ≤ o.price.value := by
  obtain ⟨threshold, computed, number⟩ := exactly.isSome
  have past := (List.append_eq_nil_iff.mp (pastReference_eq_nil nothing listed known)).2
  have kept := List.filter_eq_nil_iff.mp past o (RestingOrder.mem_on.mpr ⟨member, pair, side⟩)
  rw [computed, Option.any_some, decide_eq_true_eq, lt_iff_value, number] at kept
  exact not_lt.mp kept

end CancelPlan

namespace Proposal

/-- The boundaries of a pair with these prices are exact, and so is the price half way to the book
wherever it is needed. -/
structure ExactPlan (settings : Settings) (q : PairPrices) (side : Side) : Prop where
  highest : Exact (q.reference.bid.below? settings.buy.place)
    (q.reference.bid.value * (1 - settings.buy.place.value))
  lowest : Exact (q.reference.ask.above? settings.sell.place)
    (q.reference.ask.value * (1 + settings.sell.place.value))
  buy : side = .buy → ∀ book ∈ q.book, ∀ boundary ∈ buyBoundary? settings q.reference,
    zero < book.bid → book.bid < boundary →
      Exact (boundary.midpoint? book.bid) ((boundary.value + book.bid.value) / 2)
  sell : side = .sell → ∀ book ∈ q.book, ∀ boundary ∈ sellBoundary? settings q.reference,
    zero < book.ask → boundary < book.ask →
      Exact (boundary.midpoint? book.ask) ((boundary.value + book.ask.value) / 2)

instance (settings : Settings) (q : PairPrices) (side : Side) :
    Decidable (ExactPlan settings q side) :=
  decidable_of_iff (_ ∧ _ ∧ _ ∧ _)
    ⟨fun ⟨highest, lowest, buy, sell⟩ => ⟨highest, lowest, buy, sell⟩,
      fun ⟨highest, lowest, buy, sell⟩ => ⟨highest, lowest, buy, sell⟩⟩

variable {settings : Settings} {p : Pair} {q : PairPrices} {orders : OpenOrders} {c : Candidate}

theorem Accepted.buy_le (accepted : Accepted settings p q orders c)
    (exactly : ExactPlan settings q c.side) (side : c.side = .buy) :
    c.price.value ≤ q.reference.bid.value * (1 - settings.buy.place.value) ∧
      0 < q.reference.bid.value * (1 - settings.buy.place.value) := by
  obtain ⟨book, boundary, known, found, plan⟩ := accepted.priced
  rw [side] at found plan
  have least := SidePlan.buy_le plan (exactly.buy side book known boundary found)
  obtain ⟨computed, below, positive⟩ := Option.bind_eq_some_iff.mp found
  obtain ⟨rfl, above⟩ := value_pos_of_positive? positive
  have number := exactly.highest.value_eq below
  exact ⟨number ▸ least, number ▸ above⟩

theorem Accepted.le_sell (accepted : Accepted settings p q orders c)
    (exactly : ExactPlan settings q c.side) (side : c.side = .sell) :
    q.reference.ask.value * (1 + settings.sell.place.value) ≤ c.price.value ∧
      0 < q.reference.ask.value * (1 + settings.sell.place.value) := by
  obtain ⟨book, boundary, known, found, plan⟩ := accepted.priced
  rw [side] at found plan
  have most := SidePlan.le_sell plan (exactly.sell side book known boundary found)
  obtain ⟨computed, above, positive⟩ := Option.bind_eq_some_iff.mp found
  obtain ⟨rfl, greater⟩ := value_pos_of_positive? positive
  have number := exactly.lowest.value_eq above
  exact ⟨number ▸ most, number ▸ greater⟩

end Proposal

end QuoteKeeper
