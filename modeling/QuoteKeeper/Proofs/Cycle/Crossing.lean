import QuoteKeeper.Proofs.Cycle.Candidates
import QuoteKeeper.Proofs.Cycle.Pricing
import QuoteKeeper.Proofs.Rehearsal.Serving
import QuoteKeeper.Settings.Check

/-!
# Whether new orders cross the book

The price of a new order depends on the reference and on the best price of its own side. It is not
compared with the other side of the book, which may be anywhere: a book that has moved away from the
reference can have its ask below the price of a buy, or its bid above that of a sell. A buy rests if
and only if the middle between its boundary and the best bid is below the ask, and a sell likewise.
So it is enough that the boundaries lie inside the book.
-/

namespace QuoteKeeper

open Dialogue Decimal

namespace BidAsk

/-- The best price of a side. -/
def best (book : BidAsk) : Side → Decimal
  | .buy => book.bid
  | .sell => book.ask

/-- An order at the price would rest: the other side of the book does not reach it. -/
def Admits (book : BidAsk) (price : Decimal) : Side → Prop
  | .buy => price < book.ask
  | .sell => book.bid < price

/-- The other side of the book does not reach the middle between the boundary and the best price. -/
def AdmitsMiddle (book : BidAsk) (boundary : Decimal) : Side → Prop
  | .buy => boundary.value + book.bid.value < 2 * book.ask.value
  | .sell => 2 * book.bid.value < boundary.value + book.ask.value

/-- The middle between the boundary and the best price is exact where it is taken. -/
def ExactMiddle (book : BidAsk) (boundary : Decimal) : Side → Prop
  | .buy => book.bid < boundary →
      Exact (boundary.midpoint? book.bid) ((boundary.value + book.bid.value) / 2)
  | .sell => boundary < book.ask →
      Exact (boundary.midpoint? book.ask) ((boundary.value + book.ask.value) / 2)

instance (book : BidAsk) (price : Decimal) : (side : Side) → Decidable (book.Admits price side)
  | .buy => inferInstanceAs (Decidable (_ < (_ : Decimal)))
  | .sell => inferInstanceAs (Decidable (_ < (_ : Decimal)))

instance (book : BidAsk) (boundary : Decimal) : (side : Side) →
    Decidable (book.AdmitsMiddle boundary side)
  | .buy => inferInstanceAs (Decidable (_ < (_ : ℚ)))
  | .sell => inferInstanceAs (Decidable (_ < (_ : ℚ)))

instance (book : BidAsk) (boundary : Decimal) : (side : Side) →
    Decidable (book.ExactMiddle boundary side)
  | .buy => inferInstanceAs (Decidable (_ → _))
  | .sell => inferInstanceAs (Decidable (_ → _))

end BidAsk

namespace SidePlan

variable {boundary bid ask distance price : Decimal}

/-- A buy is below the ask if and only if the middle is, also where the best bid is no worse than
the boundary and the middle is not taken. -/
theorem BuyPriced.lt_ask_iff (priced : BuyPriced boundary bid distance price) (shown : zero < bid)
    (spread : bid < ask) (half : bid < boundary →
      Exact (boundary.midpoint? bid) ((boundary.value + bid.value) / 2)) :
    price < ask ↔ boundary.value + bid.value < 2 * ask.value := by
  rw [lt_iff_value] at *
  rw [value_zero] at shown
  cases priced with
  | alone nobody =>
    rw [le_iff_value, value_zero] at nobody
    linarith
  | boundary somebody far near behind =>
    rw [le_iff_value] at behind
    exact iff_of_true (by linarith) (by linarith)
  | middle somebody far near ahead middle =>
    rw [lt_iff_value] at ahead
    rw [(half ahead).value_eq middle, div_lt_iff₀ two_pos, mul_comm]

theorem SellPriced.bid_lt_iff (priced : SellPriced boundary ask distance price) (shown : zero < bid)
    (spread : bid < ask) (half : boundary < ask →
      Exact (boundary.midpoint? ask) ((boundary.value + ask.value) / 2)) :
    bid < price ↔ 2 * bid.value < boundary.value + ask.value := by
  rw [lt_iff_value] at *
  rw [value_zero] at shown
  cases priced with
  | alone nobody =>
    rw [le_iff_value, value_zero] at nobody
    linarith
  | boundary somebody far near behind =>
    rw [le_iff_value] at behind
    exact iff_of_true (by linarith) (by linarith)
  | middle somebody far near ahead middle =>
    rw [lt_iff_value] at ahead
    rw [(half ahead).value_eq middle, lt_div_iff₀ two_pos, mul_comm]

end SidePlan

namespace Proposal

variable {settings : Settings} {p : Pair} {q : PairPrices} {orders : OpenOrders}
  {cooldown : Cooldown} {now : Instant} {t : Transcript} {o : PairOutcome}

theorem boundary?_pos {reference : BidAsk} {side : Side} {boundary : Decimal}
    (found : boundary? settings reference side = some boundary) : 0 < boundary.value := by
  cases side with
  | buy =>
    obtain ⟨computed, -, positive⟩ := Option.bind_eq_some_iff.mp found
    exact (value_pos_of_positive? positive).2
  | sell =>
    obtain ⟨computed, -, positive⟩ := Option.bind_eq_some_iff.mp found
    exact (value_pos_of_positive? positive).2

/-- In a book with a bid below its ask, a candidate rests if and only if the other side of the book
does not reach the middle between the boundary and the best price, if the middle is exact. If the
other side does not even reach the boundary, the candidate rests whatever the last place of the
middle is rounded to, as long as the sum that is halved is not rounded past the boundary. -/
theorem proposed_rests_iff (path : Path (outcome settings p q orders cooldown now) t o)
    {book : BidAsk} (known : q.book = some book) (shown : zero < book.bid)
    (spread : book.bid < book.ask) {c : Candidate} (proposed : c ∈ o.candidates) :
    ∃ boundary, boundary? settings q.reference c.side = some boundary ∧
      (book.ExactMiddle boundary c.side →
        (book.Admits c.price c.side ↔ book.AdmitsMiddle boundary c.side)) ∧
      (Roomy boundary (boundary.value + (book.best c.side).value) →
        book.Admits boundary c.side → book.Admits c.price c.side) := by
  have accepted := (outcome_course path).2.candidates.2 c proposed
  obtain ⟨book', boundary, known', found, plan⟩ := accepted.priced
  obtain rfl := Option.some.inj (known.symm.trans known')
  have positive := (boundary?_pos found).le
  refine ⟨boundary, found, ?_⟩
  cases side : c.side with
  | buy =>
    rw [side] at plan
    have priced := SidePlan.buy_priced plan
    refine ⟨fun half => priced.lt_ask_iff shown spread half, fun roomy inside => ?_⟩
    have most := le_iff_value.mp ((priced.staysBelow positive).exactly roomy)
    exact lt_iff_value.mpr (most.trans_lt (lt_iff_value.mp inside))
  | sell =>
    rw [side] at plan
    have priced := SidePlan.sell_priced plan
    refine ⟨fun half => priced.bid_lt_iff shown spread half, fun roomy inside => ?_⟩
    have least := le_iff_value.mp ((priced.staysAbove positive).exactly roomy)
    exact lt_iff_value.mpr ((lt_iff_value.mp inside).trans_le least)

/-- Prices with the reference of the small market and some book. -/
def pricesWith (book : BidAsk) : PairPrices where
  reference := ⟨0.0010, 0.0011⟩
  book := some book

/-- What becomes of the pair of the small market at these prices. -/
def smallOutcome (book : BidAsk) : Dialogue PairOutcome :=
  outcome Keeper.small.settings ⟨"X", "BTC"⟩ (pricesWith book) ⟨Keeper.small.settings.pairs, []⟩
    Keeper.small.cooldown (Span.ofSeconds 5)

theorem exists_proposed (book : BidAsk) (test : Candidate → Bool)
    (shown : ((smallOutcome book).run Rehearsal.world Rehearsal.small).1.toOption.any
      (fun o => o.candidates.any test) = true) :
    ∃ t o c, Path (smallOutcome book) t o ∧ c ∈ o.candidates ∧ test c = true := by
  obtain ⟨t, o, path, tested⟩ := path_of_run shown
  obtain ⟨c, proposed, passed⟩ := List.any_eq_true.mp tested
  exact ⟨t, o, c, path, proposed, passed⟩

/-- The ask is below the boundary of buys, but not below the middle, and the buy rests. -/
theorem proposed_rests_iff_small : ∃ t o c, Path (smallOutcome ⟨0.00098, 0.00099⟩) t o ∧
    c ∈ o.candidates ∧ c.side = .buy ∧ zero < (0.00098 : Decimal) ∧
    (0.00098 : Decimal) < 0.00099 ∧ c.price < 0.00099 := by
  obtain ⟨t, o, c, path, proposed, bought⟩ :=
    exists_proposed ⟨0.00098, 0.00099⟩ (fun c => decide (c.side = .buy))
      (by decide +kernel)
  have side : c.side = .buy := of_decide_eq_true bought
  obtain ⟨boundary, found, iff, -⟩ :=
    proposed_rests_iff path rfl (by decide +kernel) (by decide +kernel) proposed
  have known : boundary? Keeper.small.settings ⟨0.0010, 0.0011⟩ .buy = some 0.00099500 := by
    decide +kernel
  rw [side] at found iff
  obtain rfl := Option.some.inj (known.symm.trans found)
  exact ⟨t, o, c, path, proposed, side, by decide +kernel, by decide +kernel,
    (iff (by decide +kernel)).mpr (by decide +kernel)⟩

/-- With valid settings, a book below the reference has its ask below the price of the buy that is
proposed, and a book above the reference has its bid above that of the sell. -/
theorem proposed_crossing : Keeper.small.settings.check = .ok () ∧
    (⟨0.0010, 0.0011⟩ : BidAsk).isValid = true ∧
    (zero < (0.00085 : Decimal) ∧ (0.00085 : Decimal) < 0.0009 ∧
      ∃ t o c, Path (smallOutcome ⟨0.00085, 0.0009⟩) t o ∧ c ∈ o.candidates ∧ c.side = .buy ∧
        (0.0009 : Decimal) < c.price) ∧
    zero < (0.0012 : Decimal) ∧ (0.0012 : Decimal) < 0.00125 ∧
      ∃ t o c, Path (smallOutcome ⟨0.0012, 0.00125⟩) t o ∧ c ∈ o.candidates ∧ c.side = .sell ∧
        c.price < (0.0012 : Decimal) := by
  obtain ⟨t, o, c, path, proposed, crossed⟩ :=
    exists_proposed ⟨0.00085, 0.0009⟩ (fun c => decide (c.side = .buy ∧ 0.0009 < c.price))
      (by decide +kernel)
  obtain ⟨t', o', c', path', proposed', crossed'⟩ :=
    exists_proposed ⟨0.0012, 0.00125⟩ (fun c => decide (c.side = .sell ∧ c.price < 0.0012))
      (by decide +kernel)
  exact ⟨by decide +kernel, by decide +kernel,
    ⟨by decide +kernel, by decide +kernel, t, o, c, path, proposed, of_decide_eq_true crossed⟩,
    by decide +kernel, by decide +kernel, t', o', c', path', proposed',
    of_decide_eq_true crossed'⟩

end Proposal

end QuoteKeeper
