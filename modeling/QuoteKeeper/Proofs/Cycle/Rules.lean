import QuoteKeeper.Proofs.Cycle.Keeping
import QuoteKeeper.Proofs.Rehearsal.Serving
import QuoteKeeper.Settings.Check

/-!
# The two rules on ratios

Each side should place farther from the reference than it keeps, and nearer to the book than it
keeps. Then nothing that is proposed is unprofitable at the prices it was proposed at, and no buy is
outbid there. A sell can be: `(1 - distance) * (1 + outbid)` may be below 1 although the distance is
below the other ratio, and then a sell at the farthest place is left behind at once. The rule that
a sell needs is on the product.
-/

namespace QuoteKeeper

open Dialogue

/-- The side places farther from the reference than it keeps, and nearer to the book than it keeps;
no ratio is as large as 1, and no distance from the book is negative. -/
structure SideRatios.FollowsRules (r : SideRatios) : Prop where
  farther : r.unprofitable.value < r.place.value
  nearer : r.placeDistance.value < r.outbid.value
  nonneg : 0 ≤ r.placeDistance.value
  small : ∀ ratio ∈ [r.place, r.placeDistance, r.unprofitable, r.outbid],
    -1 < ratio.value ∧ ratio.value < 1

instance (r : SideRatios) : Decidable r.FollowsRules :=
  decidable_of_iff (_ ∧ _ ∧ _ ∧ _)
    ⟨fun ⟨farther, nearer, nonneg, small⟩ => ⟨farther, nearer, nonneg, small⟩,
      fun ⟨farther, nearer, nonneg, small⟩ => ⟨farther, nearer, nonneg, small⟩⟩

namespace Settings

variable {settings : Settings}

theorem keepsPlaced_of_rules {side : Side} (rules : (settings.ratios side).FollowsRules) :
    settings.KeepsPlaced side :=
  rules.farther.le

/-- For buys the product is at most 1 whenever the distance is the smaller ratio. -/
theorem keepsNear_buy_of_rules (rules : settings.buy.FollowsRules) : settings.KeepsNear .buy := by
  have outbid := rules.nonneg.trans rules.nearer.le
  refine ⟨outbid, ?_⟩
  have both := mul_nonneg rules.nonneg outbid
  have less := rules.nearer
  linarith

theorem keepsNear_sell_of_rules (rules : settings.sell.FollowsRules)
    (product : 1 ≤ (1 - settings.sell.placeDistance.value) * (1 + settings.sell.outbid.value)) :
    settings.KeepsNear .sell :=
  ⟨rules.nonneg.trans rules.nearer.le, product⟩

end Settings

namespace Proposal

/-- With both rules on both sides, and prices that are computed exactly: nothing that is proposed is
unprofitable at the same prices, whatever else rests. No buy is outbid at them either, nor is a sell
if the product of its distances is at least 1. -/
theorem proposed_kept {settings : Settings}
    (rules : ∀ side, (settings.ratios side).FollowsRules) {p : Pair} {q : PairPrices}
    {prices : Prices} (known : prices.get? p = some q) (valid : q.reference.isValid = true)
    (exactly : ExactPrices settings q) {orders : OpenOrders} {cooldown : Cooldown}
    {now : Instant} {t : Transcript} {o : PairOutcome}
    (path : Path (outcome settings p q orders cooldown now) t o) {c : Candidate}
    (proposed : c ∈ o.candidates) (id : OrderId) (resting : List RestingOrder) :
    c.rest id ∉ (CancelPlan.unprofitable settings prices
        ⟨settings.pairs, resting⟩).withdrawals.map (·.order) ∧
      (c.side = .buy ∨
          1 ≤ (1 - settings.sell.placeDistance.value) * (1 + settings.sell.outbid.value) →
        c.rest id ∉ (CancelPlan.outbid settings prices
          ⟨settings.pairs, resting⟩).withdrawals.map (·.order)) := by
  have accepted := (outcome_course path).2.candidates.2 c proposed
  have pair : (c.rest id).pair = p := accepted.pair_eq
  constructor
  · intro canceled
    obtain ⟨-, -, q', known', past⟩ := CancelPlan.mem_unprofitable_iff.mp canceled
    rw [pair, known] at known'
    obtain rfl := Option.some.inj known'
    exact accepted.not_past exactly valid (Settings.keepsPlaced_of_rules (rules _)) id past
  · intro near canceled
    obtain ⟨-, -, book, shown, behind⟩ := CancelPlan.mem_outbid_iff.mp canceled
    rw [pair, known] at shown
    have keeps : settings.KeepsNear c.side := by
      cases side : c.side with
      | buy => exact Settings.keepsNear_buy_of_rules (rules .buy)
      | sell =>
        refine Settings.keepsNear_sell_of_rules (rules .sell) (near.resolve_left ?_)
        rw [side]
        exact Side.noConfusion
    exact accepted.not_behind exactly keeps shown id behind

/-- Prices of the one pair of the small market, and of no other. -/
def pricesOf (q : PairPrices) : Prices := { known := ⟨[(⟨"X", "BTC"⟩, q)]⟩ }

/-- The prices there. -/
def smallPrices : PairPrices where
  reference := ⟨0.0010, 0.0011⟩
  book := some ⟨0.00098, 0.00112⟩

/-- In the small market a sell is proposed, and it is kept. -/
theorem proposed_kept_small : ∃ t o c,
    Path (outcome Keeper.small.settings ⟨"X", "BTC"⟩ smallPrices ⟨Keeper.small.settings.pairs, []⟩
      Keeper.small.cooldown (Span.ofSeconds 5)) t o ∧
    c ∈ o.candidates ∧ c.side = .sell ∧
    c.rest "#1" ∉ (CancelPlan.unprofitable Keeper.small.settings (pricesOf smallPrices)
      ⟨Keeper.small.settings.pairs, [c.rest "#1"]⟩).withdrawals.map (·.order) ∧
    c.rest "#1" ∉ (CancelPlan.outbid Keeper.small.settings (pricesOf smallPrices)
      ⟨Keeper.small.settings.pairs, [c.rest "#1"]⟩).withdrawals.map (·.order) := by
  have passed : ((outcome Keeper.small.settings ⟨"X", "BTC"⟩ smallPrices
      ⟨Keeper.small.settings.pairs, []⟩ Keeper.small.cooldown (Span.ofSeconds 5)).run
        Rehearsal.world Rehearsal.small).1.toOption.any
        (fun o => o.candidates.any fun c => decide (c.side = .sell)) = true := by
    decide +kernel
  obtain ⟨t, o, path, shown⟩ := path_of_run passed
  obtain ⟨c, proposed, sell⟩ := List.any_eq_true.mp shown
  have rules : ∀ side, (Keeper.small.settings.ratios side).FollowsRules := by
    intro side
    cases side with
    | buy => decide +kernel
    | sell => decide +kernel
  have exactly : ExactPrices Keeper.small.settings smallPrices := by
    decide +kernel
  have known : (pricesOf smallPrices).get? ⟨"X", "BTC"⟩ = some smallPrices := rfl
  obtain ⟨profitable, near⟩ :=
    proposed_kept rules known (by decide +kernel) exactly path proposed "#1" [c.rest "#1"]
  exact ⟨t, o, c, path, proposed, of_decide_eq_true sell, profitable,
    near (Or.inr (by decide +kernel))⟩

/-- Settings with both rules on both sides, but with little between the two distances of sells. -/
def narrow : Settings :=
  { Settings.default with
    pairs := [⟨"X", "BTC"⟩]
    sell := { Settings.defaultSell with outbid := 0.0201 } }

/-- An ask that is as far below the lowest sell as may be. -/
def narrowPrices : PairPrices where
  reference := ⟨0.0010, 0.0011⟩
  book := some ⟨0.00098, 0.001078539⟩

/-- With these settings, which are valid and follow both rules, and with these prices, all computed
exactly, the sell that is proposed is outbid at once. -/
theorem narrow_outbid : narrow.check = .ok () ∧ (∀ side, (narrow.ratios side).FollowsRules) ∧
    narrowPrices.reference.isValid = true ∧ ExactPrices narrow narrowPrices ∧
    ∃ t o c,
      Path (outcome narrow ⟨"X", "BTC"⟩ narrowPrices ⟨narrow.pairs, []⟩ (Cooldown.start 0)
        (Span.ofSeconds 5)) t o ∧
      c ∈ o.candidates ∧
      c.rest "#1" ∈ (CancelPlan.outbid narrow (pricesOf narrowPrices)
        ⟨narrow.pairs, [c.rest "#1"]⟩).withdrawals.map (·.order) := by
  have passed : ((outcome narrow ⟨"X", "BTC"⟩ narrowPrices ⟨narrow.pairs, []⟩ (Cooldown.start 0)
      (Span.ofSeconds 5)).run Rehearsal.world Rehearsal.small).1.toOption.any
        (fun o => o.candidates.any fun c => decide (c.rest "#1" ∈
          (CancelPlan.outbid narrow (pricesOf narrowPrices)
            ⟨narrow.pairs, [c.rest "#1"]⟩).withdrawals.map (·.order))) = true := by
    decide +kernel
  obtain ⟨t, o, path, shown⟩ := path_of_run passed
  obtain ⟨c, proposed, canceled⟩ := List.any_eq_true.mp shown
  refine ⟨by decide +kernel, fun side => ?_, by decide +kernel, by decide +kernel, t, o, c, path,
    proposed, of_decide_eq_true canceled⟩
  cases side with
  | buy => decide +kernel
  | sell => decide +kernel

end Proposal

end QuoteKeeper
