import QuoteKeeper.Proofs.Cycle.Limits

/-!
# Whether a new order is kept

An order is in the first cancel plan if it is past the reference of its pair, in the second if the
book of its pair has left it behind. A candidate is never past the reference it was priced by, if
its side keeps at the most the distance it places with. Nor has the book left it behind, if an order
as far from the best price as may be placed is within the distance that is kept. The second
condition is on a product of ratios, and other on buys than on sells.
-/

namespace QuoteKeeper

open Decimal

/-- The order is past the reference: a buy above `bid * (1 - ratio)`, a sell below
`ask * (1 + ratio)`. -/
def RestingOrder.Past (settings : Settings) (reference : BidAsk) (o : RestingOrder) : Prop :=
  match o.side with
  | .buy => ∃ t ∈ reference.bid.below? settings.buy.unprofitable, t < o.price
  | .sell => ∃ t ∈ reference.ask.above? settings.sell.unprofitable, o.price < t

/-- The book has left the order behind: a buy below `bid * (1 - ratio)`, a sell above
`ask * (1 + ratio)`, if that side of the book is not empty. -/
def RestingOrder.Behind (settings : Settings) (book : BidAsk) (o : RestingOrder) : Prop :=
  match o.side with
  | .buy => zero < book.bid ∧ ∃ t ∈ book.bid.below? settings.buy.outbid, o.price < t
  | .sell => zero < book.ask ∧ ∃ t ∈ book.ask.above? settings.sell.outbid, t < o.price

/-- The order is on a listed pair, and past the reference at these prices. -/
structure RestingOrder.Unprofitable (settings : Settings) (prices : Pair → Option PairPrices)
    (o : RestingOrder) : Prop where
  listed : o.pair ∈ settings.pairs
  past : ∃ q, prices o.pair = some q ∧ o.Past settings q.reference

/-- The order is on a listed pair, and left behind by the book at these prices. -/
structure RestingOrder.Outbid (settings : Settings) (prices : Pair → Option PairPrices)
    (o : RestingOrder) : Prop where
  listed : o.pair ∈ settings.pairs
  behind : ∃ book, (prices o.pair).bind (·.book) = some book ∧ o.Behind settings book

namespace CancelPlan

variable {settings : Settings} {prices : Prices} {orders : List RestingOrder} {p : Pair}
  {o : RestingOrder}

theorem any_decide_iff {x : Option Decimal} {P : Decimal → Prop} [DecidablePred P] :
    (x.any fun a => decide (P a)) = true ↔ ∃ a ∈ x, P a := by
  cases x with
  | none => simp
  | some a => simp

theorem mem_pastReference_iff {reference : BidAsk} :
    o ∈ pastReference settings orders p reference ↔
      o ∈ orders ∧ o.pair = p ∧ o.Past settings reference := by
  rw [pastReference, List.mem_append, List.mem_filter, List.mem_filter, RestingOrder.mem_on,
    RestingOrder.mem_on, any_decide_iff, any_decide_iff, RestingOrder.Past]
  cases o.side with
  | buy => simp [and_assoc]
  | sell => simp [and_assoc]

theorem mem_leftBehind_iff {book : BidAsk} :
    o ∈ leftBehind settings orders p book ↔
      o ∈ orders ∧ o.pair = p ∧ o.Behind settings book := by
  rw [leftBehind, List.mem_append, List.mem_filter, List.mem_filter, RestingOrder.mem_on,
    RestingOrder.mem_on, Bool.and_eq_true_iff, Bool.and_eq_true_iff, any_decide_iff,
    any_decide_iff, decide_eq_true_eq, decide_eq_true_eq, RestingOrder.Behind]
  cases o.side with
  | buy => simp [and_assoc]
  | sell => simp [and_assoc]

/-- The first plan holds the orders that are unprofitable. -/
theorem mem_unprofitable_iff :
    o ∈ (unprofitable settings prices ⟨settings.pairs, orders⟩).withdrawals.map (·.order) ↔
      o ∈ orders ∧ o.Unprofitable settings prices.get? := by
  rw [unprofitable_orders, List.mem_flatMap]
  constructor
  · rintro ⟨p, listed, here⟩
    cases known : prices.get? p with
    | none =>
      rw [known] at here
      exact nomatch here
    | some q =>
      rw [known] at here
      obtain ⟨resting, rfl, past⟩ := mem_pastReference_iff.mp here
      exact ⟨resting, listed, q, known, past⟩
  · rintro ⟨resting, listed, q, known, past⟩
    refine ⟨o.pair, listed, ?_⟩
    rw [known]
    exact mem_pastReference_iff.mpr ⟨resting, rfl, past⟩

/-- The second plan holds the orders that are outbid. -/
theorem mem_outbid_iff :
    o ∈ (outbid settings prices ⟨settings.pairs, orders⟩).withdrawals.map (·.order) ↔
      o ∈ orders ∧ o.Outbid settings prices.get? := by
  rw [outbid_orders, List.mem_flatMap]
  constructor
  · rintro ⟨p, listed, here⟩
    cases known : (prices.get? p).bind (·.book) with
    | none =>
      rw [known] at here
      exact nomatch here
    | some book =>
      rw [known] at here
      obtain ⟨resting, rfl, behind⟩ := mem_leftBehind_iff.mp here
      exact ⟨resting, listed, book, known, behind⟩
  · rintro ⟨resting, listed, book, known, behind⟩
    refine ⟨o.pair, listed, ?_⟩
    rw [known]
    exact mem_leftBehind_iff.mpr ⟨resting, rfl, behind⟩

end CancelPlan

namespace SidePlan

/-- A buy is placed at the best bid or above, or at the boundary with the bid within the
distance. -/
theorem buy_near {boundary bid distance price : Decimal}
    (plan : buy? boundary bid distance = some (.place price)) (shown : zero < bid)
    (half : bid < boundary → Exact (boundary.midpoint? bid) ((boundary.value + bid.value) / 2))
    (far : Exact (boundary.above? distance) (boundary.value * (1 + distance.value))) :
    bid.value ≤ price.value ∨
      price = boundary ∧ bid.value ≤ boundary.value * (1 + distance.value) := by
  cases buy_priced plan with
  | alone nobody =>
    rw [le_iff_value] at nobody
    exact absurd (lt_iff_value.mp shown) (not_lt.mpr nobody)
  | boundary somebody found near behind =>
    rw [le_iff_value, far.value_eq found] at near
    exact Or.inr ⟨rfl, near⟩
  | middle somebody found near ahead found' =>
    left
    rw [(half ahead).value_eq found']
    have := lt_iff_value.mp ahead
    linarith

/-- A sell is placed at the best ask or below, or at the boundary with the ask within the
distance. -/
theorem sell_near {boundary ask distance price : Decimal}
    (plan : sell? boundary ask distance = some (.place price)) (shown : zero < ask)
    (half : boundary < ask → Exact (boundary.midpoint? ask) ((boundary.value + ask.value) / 2))
    (far : Exact (boundary.below? distance) (boundary.value * (1 - distance.value))) :
    price.value ≤ ask.value ∨
      price = boundary ∧ boundary.value * (1 - distance.value) ≤ ask.value := by
  cases sell_priced plan with
  | alone nobody =>
    rw [le_iff_value] at nobody
    exact absurd (lt_iff_value.mp shown) (not_lt.mpr nobody)
  | boundary somebody found near behind =>
    rw [le_iff_value, far.value_eq found] at near
    exact Or.inr ⟨rfl, near⟩
  | middle somebody found near ahead found' =>
    left
    rw [(half ahead).value_eq found']
    have := lt_iff_value.mp ahead
    linarith

end SidePlan

namespace Settings

/-- A side keeps at the most the distance from the reference that it places with. -/
def KeepsPlaced (settings : Settings) (side : Side) : Prop :=
  (settings.ratios side).unprofitable.value ≤ (settings.ratios side).place.value

/-- An order as far from the best price as may be placed is within the distance that is kept. -/
def KeepsNear (settings : Settings) : Side → Prop
  | .buy => 0 ≤ settings.buy.outbid.value ∧
      (1 + settings.buy.placeDistance.value) * (1 - settings.buy.outbid.value) ≤ 1
  | .sell => 0 ≤ settings.sell.outbid.value ∧
      1 ≤ (1 - settings.sell.placeDistance.value) * (1 + settings.sell.outbid.value)

instance (settings : Settings) (side : Side) : Decidable (settings.KeepsPlaced side) :=
  inferInstanceAs (Decidable (_ ≤ (_ : ℚ)))

instance (settings : Settings) : (side : Side) → Decidable (settings.KeepsNear side)
  | .buy => inferInstanceAs (Decidable (_ ∧ _))
  | .sell => inferInstanceAs (Decidable (_ ∧ _))

end Settings

/-- The prices of a pair are such that all boundaries, distances, middles and thresholds that are
computed of them are exact. -/
structure ExactPrices (settings : Settings) (q : PairPrices) : Prop where
  buys : Proposal.ExactPlan settings q .buy
  sells : Proposal.ExactPlan settings q .sell
  highest : Exact (q.reference.bid.below? settings.buy.unprofitable)
    (q.reference.bid.value * (1 - settings.buy.unprofitable.value))
  lowest : Exact (q.reference.ask.above? settings.sell.unprofitable)
    (q.reference.ask.value * (1 + settings.sell.unprofitable.value))
  farthest : ∀ boundary ∈ Proposal.buyBoundary? settings q.reference,
    Exact (boundary.above? settings.buy.placeDistance)
      (boundary.value * (1 + settings.buy.placeDistance.value))
  nearest : ∀ boundary ∈ Proposal.sellBoundary? settings q.reference,
    Exact (boundary.below? settings.sell.placeDistance)
      (boundary.value * (1 - settings.sell.placeDistance.value))
  bid : ∀ book ∈ q.book, Exact (book.bid.below? settings.buy.outbid)
    (book.bid.value * (1 - settings.buy.outbid.value))
  ask : ∀ book ∈ q.book, Exact (book.ask.above? settings.sell.outbid)
    (book.ask.value * (1 + settings.sell.outbid.value))

instance (settings : Settings) (q : PairPrices) : Decidable (ExactPrices settings q) :=
  decidable_of_iff (_ ∧ _ ∧ _ ∧ _ ∧ _ ∧ _ ∧ _ ∧ _)
    ⟨fun ⟨buys, sells, highest, lowest, farthest, nearest, bid, ask⟩ =>
        ⟨buys, sells, highest, lowest, farthest, nearest, bid, ask⟩,
      fun ⟨buys, sells, highest, lowest, farthest, nearest, bid, ask⟩ =>
        ⟨buys, sells, highest, lowest, farthest, nearest, bid, ask⟩⟩

namespace Proposal

variable {settings : Settings} {p : Pair} {q : PairPrices} {orders : OpenOrders} {c : Candidate}

/-- No candidate is past the reference it was priced by. -/
theorem Accepted.not_past (accepted : Accepted settings p q orders c)
    (exactly : ExactPrices settings q) (valid : q.reference.isValid = true)
    (keeps : settings.KeepsPlaced c.side) (id : OrderId) :
    ¬ (c.rest id).Past settings q.reference := by
  obtain ⟨bidAbove, askAbove⟩ := Bool.and_eq_true_iff.mp valid
  have bid := value_pos_iff.mp (of_decide_eq_true bidAbove)
  have ask := value_pos_iff.mp (of_decide_eq_true askAbove)
  rw [RestingOrder.Past]
  cases side : c.side with
  | buy =>
    simp only [Candidate.rest, side]
    rw [side] at keeps
    have kept : settings.buy.unprofitable.value ≤ settings.buy.place.value := keeps
    rintro ⟨threshold, found, past⟩
    rw [lt_iff_value, exactly.highest.value_eq found] at past
    obtain ⟨atMost, -⟩ := accepted.buy_le (side ▸ exactly.buys) side
    have order := mul_le_mul_of_nonneg_left (sub_le_sub_left kept 1) bid.le
    linarith
  | sell =>
    simp only [Candidate.rest, side]
    rw [side] at keeps
    have kept : settings.sell.unprofitable.value ≤ settings.sell.place.value := keeps
    rintro ⟨threshold, found, past⟩
    rw [lt_iff_value, exactly.lowest.value_eq found] at past
    obtain ⟨atLeast, -⟩ := accepted.le_sell (side ▸ exactly.sells) side
    have order := mul_le_mul_of_nonneg_left (add_le_add_right kept 1) ask.le
    linarith

/-- No candidate is left behind by the book it was priced by. -/
theorem Accepted.not_behind (accepted : Accepted settings p q orders c)
    (exactly : ExactPrices settings q) (keeps : settings.KeepsNear c.side) {book : BidAsk}
    (known : q.book = some book) (id : OrderId) : ¬ (c.rest id).Behind settings book := by
  obtain ⟨shownBook, boundary, known', found, plan⟩ := accepted.priced
  obtain rfl := Option.some.inj (known.symm.trans known')
  rw [RestingOrder.Behind]
  cases side : c.side with
  | buy =>
    simp only [Candidate.rest, side]
    rw [side] at keeps found plan
    obtain ⟨nonneg, product⟩ := keeps
    rintro ⟨shown, threshold, computed, behind⟩
    rw [lt_iff_value, (exactly.bid book known).value_eq computed] at behind
    have bid := value_pos_iff.mp shown
    rcases SidePlan.buy_near plan shown (exactly.buys.buy rfl book known boundary found shown)
      (exactly.farthest boundary found) with atBest | ⟨rfl, near⟩
    · have kept := mul_nonneg bid.le nonneg
      linarith
    · obtain ⟨_, -, above⟩ := Option.bind_eq_some_iff.mp found
      obtain ⟨rfl, positive⟩ := value_pos_of_positive? above
      rcases le_total 0 (1 - settings.buy.outbid.value) with within | beyond
      · have scaled := mul_le_mul_of_nonneg_right near within
        have most := mul_le_mul_of_nonneg_left product positive.le
        linarith
      · have least := mul_nonpos_of_nonneg_of_nonpos bid.le beyond
        linarith
  | sell =>
    simp only [Candidate.rest, side]
    rw [side] at keeps found plan
    obtain ⟨nonneg, product⟩ := keeps
    rintro ⟨shown, threshold, computed, behind⟩
    rw [lt_iff_value, (exactly.ask book known).value_eq computed] at behind
    have ask := value_pos_iff.mp shown
    rcases SidePlan.sell_near plan shown (exactly.sells.sell rfl book known boundary found shown)
      (exactly.nearest boundary found) with atBest | ⟨rfl, near⟩
    · have kept := mul_nonneg ask.le nonneg
      linarith
    · obtain ⟨_, -, above⟩ := Option.bind_eq_some_iff.mp found
      obtain ⟨rfl, positive⟩ := value_pos_of_positive? above
      have factor : 0 ≤ 1 + settings.sell.outbid.value := by linarith
      have scaled := mul_le_mul_of_nonneg_right near factor
      have least := mul_le_mul_of_nonneg_left product positive.le
      linarith

end Proposal

end QuoteKeeper
