import QuoteKeeper.Proofs.Cycle.Limits
import QuoteKeeper.Proofs.Cycle.Observed
import QuoteKeeper.Proofs.Run.Moments

/-!
# No order against another

If the ratios of the two sides are above zero in sum, those to place with those to place and those
to keep with those to place, then at every moment of a run every resting buy is below every resting
sell of its pair. The two can come from different cycles: the older one has been held against the
reference that the newer one is placed by, and is still within its threshold. This takes references
with the bid at most at the ask and prices that are computed exactly.
-/

namespace QuoteKeeper

open Decimal Dialogue

/-- Every buy is below every sell of its pair. -/
def Uncrossed (orders : List RestingOrder) : Prop :=
  ∀ b ∈ orders, ∀ s ∈ orders, b.pair = s.pair → b.side = .buy → s.side = .sell → b.price < s.price

theorem uncrossed_nil : Uncrossed [] := fun _ member => nomatch member

theorem Uncrossed.sublist {before after : List RestingOrder} (fewer : after.Sublist before)
    (held : Uncrossed before) : Uncrossed after :=
  fun b buy s sell => held b (fewer.subset buy) s (fewer.subset sell)

/-- Orders that are not against each other stay so with some more, if none of these is against any
order. -/
theorem Uncrossed.append {old new : List RestingOrder} (held : Uncrossed old)
    (buys : ∀ b ∈ new, b.side = .buy → ∀ s ∈ old ++ new, b.pair = s.pair → s.side = .sell →
      b.price < s.price)
    (sells : ∀ s ∈ new, s.side = .sell → ∀ b ∈ old, b.pair = s.pair → b.side = .buy →
      b.price < s.price) : Uncrossed (old ++ new) := by
  intro b buy s sell pair left right
  rcases List.mem_append.mp buy with oldBuy | newBuy
  · rcases List.mem_append.mp sell with oldSell | newSell
    · exact held b oldBuy s oldSell pair left right
    · exact sells s newSell right b oldBuy pair left
  · exact buys b newBuy left s sell pair right

/-- A price at a ratio below the bid is below one at a ratio above the ask, if the ratios are above
zero in sum and the upper price is above zero. -/
theorem below_lt_above {bid ask r s : ℚ} (positive : 0 < bid) (ordered : bid ≤ ask)
    (apart : 0 < r + s) (above : 0 < 1 + s) : bid * (1 - r) < ask * (1 + s) :=
  calc bid * (1 - r) < bid * (1 + s) := mul_lt_mul_of_pos_left (by linarith) positive
    _ ≤ ask * (1 + s) := mul_le_mul_of_nonneg_right ordered above.le

/-- The three conditions on the ratios: new orders against each other, a resting buy against a new
sell, and a new buy against a resting sell. -/
structure SideRatios.Apart (buy sell : SideRatios) : Prop where
  placed : 0 < buy.place.value + sell.place.value
  keptBuy : 0 < buy.unprofitable.value + sell.place.value
  keptSell : 0 < buy.place.value + sell.unprofitable.value

theorem default_apart : SideRatios.Apart Settings.defaultBuy Settings.defaultSell where
  placed := by decide +kernel
  keptBuy := by decide +kernel
  keptSell := by decide +kernel

namespace Progress

/-- What a cycle is told is in order and what it computes of it is exact: no valid reference has its
bid above its ask, the thresholds of the first phase are exact for every priced pair, and so are the
prices of the batches. -/
structure ExactCycle (settings : Settings) (t : Transcript) : Prop where
  ordered : ∀ e ∈ t.references, ∀ q ∈ e.2, q.isValid = true → q.bid ≤ q.ask
  highest : ∀ readings ∈ readings? settings.pairs t, ∀ p ∈ settings.pairs,
    ∀ q ∈ (Prices.ofReadings readings).get? p,
      Exact (q.reference.bid.below? settings.buy.unprofitable)
        (q.reference.bid.value * (1 - settings.buy.unprofitable.value))
  lowest : ∀ readings ∈ readings? settings.pairs t, ∀ p ∈ settings.pairs,
    ∀ q ∈ (Prices.ofReadings readings).get? p,
      Exact (q.reference.ask.above? settings.sell.unprofitable)
        (q.reference.ask.value * (1 + settings.sell.unprofitable.value))
  planned : ∀ readings ∈ readings? settings.pairs t, ∀ batch ∈ t.batches, ∀ c ∈ batch,
    ∀ q ∈ (Prices.ofReadings readings).get? c.pair, Proposal.ExactPlan settings q c.side

instance (settings : Settings) (t : Transcript) : Decidable (ExactCycle settings t) :=
  decidable_of_iff (_ ∧ _ ∧ _ ∧ _)
    ⟨fun ⟨ordered, highest, lowest, planned⟩ => ⟨ordered, highest, lowest, planned⟩,
      fun ⟨ordered, highest, lowest, planned⟩ => ⟨ordered, highest, lowest, planned⟩⟩

end Progress

namespace Batch

variable {settings : Settings} {p : Pair} {q : PairPrices} {orders : OpenOrders}
  {batch : List Candidate} {new : List RestingOrder} {o : RestingOrder}

/-- A new buy is on the pair of the batch, at most at the boundary. -/
theorem Yields.buy_le (yields : Yields batch new)
    (accepted : ∀ c ∈ batch, Proposal.Accepted settings p q orders c)
    (exactly : ∀ c ∈ batch, Proposal.ExactPlan settings q c.side) (member : o ∈ new)
    (side : o.side = .buy) : o.pair = p ∧
      o.price.value ≤ q.reference.bid.value * (1 - settings.buy.place.value) ∧
      0 < q.reference.bid.value * (1 - settings.buy.place.value) := by
  obtain ⟨c, candidate, pair, same, price⟩ := yields.mem member
  have fine := accepted c candidate
  refine ⟨pair.symm.trans fine.pair_eq, ?_⟩
  rw [← price]
  exact fine.buy_le (exactly c candidate) (same.trans side)

/-- A new sell is on the pair of the batch, at least at the boundary. -/
theorem Yields.le_sell (yields : Yields batch new)
    (accepted : ∀ c ∈ batch, Proposal.Accepted settings p q orders c)
    (exactly : ∀ c ∈ batch, Proposal.ExactPlan settings q c.side) (member : o ∈ new)
    (side : o.side = .sell) : o.pair = p ∧
      q.reference.ask.value * (1 + settings.sell.place.value) ≤ o.price.value ∧
      0 < q.reference.ask.value * (1 + settings.sell.place.value) := by
  obtain ⟨c, candidate, pair, same, price⟩ := yields.mem member
  have fine := accepted c candidate
  refine ⟨pair.symm.trans fine.pair_eq, ?_⟩
  rw [← price]
  exact fine.le_sell (exactly c candidate) (same.trans side)

end Batch

namespace Progress

/-- What a cycle adds is not against anything that it has found, nor against itself. -/
theorem Adds.uncrossed {settings : Settings} {t : Transcript} {found new : List RestingOrder}
    (adds : Adds settings t found new) (apart : SideRatios.Apart settings.buy settings.sell)
    (exactly : ExactCycle settings t) (held : Uncrossed found) : Uncrossed (found ++ new) := by
  cases adds with
  | @batch readings reads p q cs r read shown profitable listed known sides accepted checked
      yields =>
    obtain ⟨told, valid⟩ := read.valid (Prices.mem_of_get? known)
    obtain ⟨bidAbove, askAbove⟩ := Bool.and_eq_true_iff.mp valid
    have bid := value_pos_iff.mp (of_decide_eq_true bidAbove)
    have ask := value_pos_iff.mp (of_decide_eq_true askAbove)
    have ordered := le_iff_value.mp (exactly.ordered _ told _ rfl valid)
    have plans : ∀ c ∈ cs, Proposal.ExactPlan settings q c.side := fun c member =>
      exactly.planned readings shown cs (Transcript.mem_batches checked) c member q
        ((accepted c member).pair_eq ▸ known)
    have highest := exactly.highest readings shown p listed q known
    have lowest := exactly.lowest readings shown p listed q known
    have placed := apart.placed
    have keptBuy := apart.keptBuy
    have keptSell := apart.keptSell
    -- A new buy is held against all sells, a new sell only against the old buys.
    refine held.append ?_ ?_
    · intro b newBuy left s sell pair right
      obtain ⟨rfl, atMost, above⟩ := yields.buy_le accepted plans newBuy left
      have room := (pos_iff_pos_of_mul_pos above).mp bid
      rw [lt_iff_value]
      rcases List.mem_append.mp sell with oldSell | newSell
      · have atLeast := CancelPlan.le_kept_sell profitable listed known lowest oldSell pair.symm
          right
        exact atMost.trans_lt
          ((below_lt_above bid ordered keptSell (by linarith)).trans_le atLeast)
      · obtain ⟨-, atLeast, -⟩ := yields.le_sell accepted plans newSell right
        exact atMost.trans_lt
          ((below_lt_above bid ordered placed (by linarith)).trans_le atLeast)
    · intro s newSell right b oldBuy pair left
      obtain ⟨rfl, atLeast, above⟩ := yields.le_sell accepted plans newSell right
      have room := (pos_iff_pos_of_mul_pos above).mp ask
      have atMost := CancelPlan.kept_buy_le profitable listed known highest oldBuy pair left
      rw [lt_iff_value]
      exact atMost.trans_lt ((below_lt_above bid ordered keptBuy room).trans_le atLeast)

end Progress

namespace Keeper

/-- At every moment of a run that starts with nothing resting, every resting buy is strictly below
every resting sell of its pair. -/
theorem run_uncrossed {k k' : Keeper} {turns : List Turn} (runs : Runs k turns k')
    (apart : SideRatios.Apart k.settings.buy k.settings.sell)
    (exactly : ∀ turn ∈ turns, Progress.ExactCycle k.settings turn.transcript) {v w : Paper}
    (fresh : v.orders = []) {done rest : List Exchange} (moment : done ++ rest = callsOf turns)
    (serves : v.Serves done w) :
    ∀ b ∈ w.orders, ∀ s ∈ w.orders, b.pair = s.pair → b.side = .buy → s.side = .sell →
      b.price < s.price :=
  runs.keeps Uncrossed.sublist
    (fun turn member _ _ adds => adds.uncrossed apart (exactly turn member)) ⟨rest, moment⟩ serves
    (fresh ▸ uncrossed_nil)

/-- Two rehearsed cycles with the default ratios leave a buy and a sell on the one pair. -/
theorem run_uncrossed_small : ∃ turns k' w, Runs Keeper.small turns k' ∧
    (∀ turn ∈ turns, Progress.ExactCycle Keeper.small.settings turn.transcript) ∧
    Rehearsal.small.venue.Serves (callsOf turns) w ∧ w.orders.map (·.side) = [.buy, .sell] ∧
    ∀ b ∈ w.orders, ∀ s ∈ w.orders, b.pair = s.pair → b.side = .buy → s.side = .sell →
      b.price < s.price := by
  have ended : (Rehearsal.cycles Keeper.small Rehearsal.small
      [Span.ofSeconds 5, Span.ofSeconds 6]).toOption.map (fun last =>
        (last.2.2.venue.orders.map (·.side), last.1.all fun turn =>
          decide (Progress.ExactCycle Keeper.small.settings turn.transcript))) =
      some ([.buy, .sell], true) := by
    decide +kernel
  cases done : Rehearsal.cycles Keeper.small Rehearsal.small
      [Span.ofSeconds 5, Span.ofSeconds 6] with
  | error e =>
    rw [done] at ended
    exact nomatch ended
  | ok last =>
    rw [done] at ended
    obtain ⟨turns, k', r'⟩ := last
    obtain ⟨sides, all⟩ := Prod.mk.inj (Option.some.inj ended)
    obtain ⟨runs, serves⟩ := Rehearsal.cycles_runs rfl done
    have exactly : ∀ turn ∈ turns, Progress.ExactCycle Keeper.small.settings turn.transcript :=
      fun turn member => of_decide_eq_true (List.all_eq_true.mp all turn member)
    exact ⟨turns, k', r'.venue, runs, exactly, serves, sides,
      run_uncrossed runs default_apart exactly rfl (List.append_nil _) serves⟩

end Keeper

end QuoteKeeper
