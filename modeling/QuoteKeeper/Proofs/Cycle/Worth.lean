import QuoteKeeper.Proofs.Cycle.Affordable
import QuoteKeeper.Proofs.Cycle.Crossing
import QuoteKeeper.Proofs.Cycle.Taking

/-!
# What a sell is worth

A target size is an amount of the quote currency. Buys are sized by it as what they are worth, but
the balance that a sell offers, which is an amount of the base currency, is compared with the same
number as it is. So a sell is worth the target size at every balance if its price is one or more,
and only then: the price of a sell depends on the prices alone, and a balance of just the target
size would be offered at that price.
-/

namespace QuoteKeeper

open Dialogue Decimal

namespace Proposal

variable {settings : Settings} {p : Pair} {q : PairPrices} {orders : OpenOrders}
  {cooldown : Cooldown} {now : Instant} {t : Transcript} {o : PairOutcome} {calls : List Exchange}

/-- A side has one price, whatever the balances are. -/
theorem Accepted.price_eq {c d : Candidate} (accepted : Accepted settings p q orders c)
    (other : Accepted settings p q orders d) (same : c.side = d.side) : c.price = d.price := by
  obtain ⟨book, boundary, known, found, plan⟩ := accepted.priced
  obtain ⟨book', boundary', known', found', plan'⟩ := other.priced
  obtain rfl := Option.some.inj (known.symm.trans known')
  rw [← same] at found' plan'
  obtain rfl := Option.some.inj (found.symm.trans found')
  exact SidePlan.place.inj (Option.some.inj (plan.symm.trans plan'))

theorem Accepted.price_pos {c : Candidate} (accepted : Accepted settings p q orders c) :
    0 < c.price.value := by
  obtain ⟨book, boundary, -, found, plan⟩ := accepted.priced
  have positive := boundary?_pos found
  cases side : c.side with
  | buy =>
    rw [side] at plan
    exact SidePlan.buy_pos positive plan
  | sell =>
    rw [side] at plan
    exact SidePlan.sell_pos positive plan

/-- A sell offers the target size or more, and would offer any other such balance. -/
theorem SellSideCourse.offers {boundary ask target : Decimal} {o : SideOutcome}
    (course : SellSideCourse settings p orders boundary ask target o calls) {c : Candidate}
    (proposed : c ∈ o.candidates) : target ≤ c.amount ∧
      ∀ amount, target ≤ amount →
        SellSideCourse settings p orders boundary ask target (.order { c with amount })
          [⟨.balance p.base, .ok amount⟩] := by
  cases course with
  | resting => exact nomatch proposed
  | looked free course =>
    cases course with
    | noPrice | tooFar | unread | noFunds => exact nomatch proposed
    | order plan enough =>
      obtain rfl := List.mem_singleton.mp proposed
      refine ⟨le_of_not_lt enough, fun amount more => .looked free (.order plan ?_)⟩
      rw [lt_iff_value, not_lt]
      exact le_iff_value.mp more

/-- A sell of a pair offers the target size or more, and any other such balance can be offered. -/
theorem Course.offers (course : Course settings p q orders cooldown now o calls) {c : Candidate}
    (proposed : c ∈ o.candidates) (sold : c.side = .sell) :
    ∃ target, settings.size? p.quote = some target ∧ target ≤ c.amount ∧
      ∀ amount, target ≤ amount → ∃ o' calls', Course settings p q orders cooldown now o' calls' ∧
        { c with amount } ∈ o'.candidates := by
  cases course with
  | waiting | noBook | noBoundary | noSize => exact nomatch proposed
  | @sides book buyMax sellMin target buy sell _ _ due known highest lowest sized bought offered =>
    rcases List.mem_append.mp proposed with one | other
    · obtain nothing | ⟨d, buys, side, -⟩ := bought.candidates
      · rw [nothing] at one
        exact nomatch one
      · rw [buys, List.mem_singleton] at one
        rw [one, side] at sold
        exact nomatch sold
    · obtain ⟨enough, otherwise⟩ := offered.offers other
      refine ⟨target, sized, enough, fun amount more => ?_⟩
      have again := Course.sides due known highest lowest sized bought (otherwise amount more)
      exact ⟨_, _, again, List.mem_append_right _ List.mem_cons_self⟩

/-- A sell offers at least the target size in the base currency. It is worth the target size in the
quote currency at whatever the venue answers if and only if its price is one or more. -/
theorem sell_worth_iff (valid : settings.check = .ok ()) (listed : p ∈ settings.pairs)
    (path : Path (outcome settings p q orders cooldown now) t o) {c : Candidate}
    (proposed : c ∈ o.candidates) (sold : c.side = .sell) :
    ∃ target, settings.size? p.quote = some target ∧ target ≤ c.amount ∧
      c.price.value * target.value ≤ c.price.value * c.amount.value ∧
      ((∀ t' o', Path (outcome settings p q orders cooldown now) t' o' →
        ∀ d ∈ o'.candidates, d.side = .sell → target.value ≤ d.price.value * d.amount.value) ↔
          1 ≤ c.price.value) := by
  have course := (outcome_course path).2
  have accepted := course.candidates.2 c proposed
  obtain ⟨target, sized, enough, otherwise⟩ := course.offers proposed sold
  have targetPos : 0 < target.value := settings.size_pos valid listed target sized
  have worth := mul_le_mul_of_nonneg_left (le_iff_value.mp enough) accepted.price_pos.le
  refine ⟨target, sized, enough, worth, fun always => ?_, fun dear t' o' path' d other sold' => ?_⟩
  · -- The least balance that is offered decides.
    obtain ⟨o', calls', course', least⟩ := otherwise target (le_iff_value.mpr (le_refl _))
    obtain ⟨t', path', -⟩ := course'.goes
    have atLeast : target.value ≤ c.price.value * target.value := always t' o' path' _ least sold
    exact (le_mul_iff_one_le_left targetPos).mp atLeast
  · have course' := (outcome_course path').2
    have accepted' := course'.candidates.2 d other
    obtain ⟨target', sized', enough', -⟩ := course'.offers other sold'
    obtain rfl := Option.some.inj (sized.symm.trans sized')
    rw [← accepted.price_eq accepted' (sold.trans sold'.symm)]
    have amountPos := targetPos.trans_le (le_iff_value.mp enough')
    exact (le_iff_value.mp enough').trans ((le_mul_iff_one_le_left amountPos).mpr dear)

/-- In the small market a sell is offered that is worth more than the target size, but at another
balance it would not be. -/
theorem sell_worth_iff_small : Keeper.small.settings.check = .ok () ∧
    ⟨"X", "BTC"⟩ ∈ Keeper.small.settings.pairs ∧
    ∃ t o c, Path (smallOutcome ⟨0.00098, 0.00112⟩) t o ∧ c ∈ o.candidates ∧ c.side = .sell ∧
      (0.000138 : Decimal) ≤ c.amount ∧
      ¬ ∀ t' o', Path (smallOutcome ⟨0.00098, 0.00112⟩) t' o' → ∀ d ∈ o'.candidates,
        d.side = .sell → (0.000138 : Decimal).value ≤ d.price.value * d.amount.value := by
  have valid : Keeper.small.settings.check = .ok () := by decide +kernel
  have size : Keeper.small.settings.size? "BTC" = some 0.000138 := by decide +kernel
  obtain ⟨t, o, c, path, proposed, sold⟩ :=
    exists_proposed ⟨0.00098, 0.00112⟩ (fun c => decide (c.side = .sell ∧ c.price.value < 1))
      (by decide +kernel)
  obtain ⟨side, cheap⟩ := of_decide_eq_true sold
  obtain ⟨target, sized, enough, -, always⟩ :=
    sell_worth_iff valid List.mem_cons_self path proposed side
  obtain rfl := Option.some.inj (size.symm.trans sized)
  exact ⟨valid, List.mem_cons_self, t, o, c, path, proposed, side, enough,
    fun all => absurd (always.mp all) (not_le_of_gt cheap)⟩

/-- The small market with less to sell. -/
def scarce : Rehearsal :=
  { Rehearsal.small with
    venue := { Rehearsal.small.venue with balances := ⟨[("X", 0.1)]⟩ } }

/-- With the default sizes, the whole balance is offered for less than the target size. -/
theorem dust_offered : Keeper.small.settings.check = .ok () ∧
    ⟨"X", "BTC"⟩ ∈ Keeper.small.settings.pairs ∧ (⟨0.0010, 0.0011⟩ : BidAsk).isValid = true ∧
    Keeper.small.settings.size? "BTC" = some 0.000138 ∧
    ∃ t o c, Path (smallOutcome ⟨0.00098, 0.00115⟩) t o ∧ c ∈ o.candidates ∧ c.side = .sell ∧
      c.price.value * c.amount.value < (0.000138 : Decimal).value := by
  have shown : ((smallOutcome ⟨0.00098, 0.00115⟩).run Rehearsal.world scarce).1.toOption.any
      (fun o => o.candidates.any fun c => decide (c.side = .sell ∧
        c.price.value * c.amount.value < (0.000138 : Decimal).value)) = true := by
    decide +kernel
  obtain ⟨t, o, path, offered⟩ := path_of_run shown
  obtain ⟨c, proposed, worth⟩ := List.any_eq_true.mp offered
  obtain ⟨side, less⟩ := of_decide_eq_true worth
  exact ⟨by decide +kernel, List.mem_cons_self, by decide +kernel, by decide +kernel, t, o, c, path,
    proposed, side, less⟩

end Proposal

end QuoteKeeper
