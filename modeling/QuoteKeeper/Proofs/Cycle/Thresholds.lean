import QuoteKeeper.Proofs.Cycle.Plans
import QuoteKeeper.Proofs.Decimal.Value
import QuoteKeeper.Proofs.Rehearsal.Serving
import QuoteKeeper.Settings.Check

/-!
# Prices that cannot be used

Nothing is proposed on a pair if one of its two boundaries has no value or is not above zero. A side
with resting orders is not judged if its threshold has no value: no order of it is withdrawn, and it
is counted once for each time its pair is listed. A threshold that has a value is used whatever its
sign.
-/

namespace QuoteKeeper

open Dialogue

/-- There is no value, or one that is not above zero. -/
def Decimal.Unusable (computed : Option Decimal) : Prop := ∀ v ∈ computed, v ≤ Decimal.zero

theorem Decimal.Unusable.not_positive {computed : Option Decimal} (unusable : Unusable computed) :
    computed.bind positive? = none := by
  cases computed with
  | none => rfl
  | some v =>
    have low : ¬ zero < v := by
      rw [lt_iff_value, not_lt]
      exact le_iff_value.mp (unusable v rfl)
    exact if_neg low

namespace Proposal

/-- A pair with an unusable boundary has no candidates. -/
theorem Course.nothing_of_unusable {settings : Settings} {p : Pair} {prices : PairPrices}
    {orders : OpenOrders} {cooldown : Cooldown} {now : Instant} {o : PairOutcome}
    {calls : List Exchange} (course : Course settings p prices orders cooldown now o calls)
    (unusable : buyBoundary? settings prices.reference = none ∨
      sellBoundary? settings prices.reference = none) : o.candidates = [] := by
  cases course with
  | waiting | noBook | noBoundary | noSize => rfl
  | sides due known highest lowest =>
    rcases unusable with missing | missing
    · exact nomatch highest.symm.trans missing
    · exact nomatch lowest.symm.trans missing

end Proposal

namespace CancelPlan

theorem concat_unjudged (plans : List CancelPlan) :
    (concat plans).unjudged = plans.flatMap (·.unjudged) := by
  induction plans with
  | nil => rfl
  | cons plan plans ih =>
    rw [List.flatMap_cons, ← ih]
    rfl

section Judging

variable {reason : CancelReason} {p : Pair} {reference : Decimal} {threshold : Option Decimal}
  {breaches : Decimal → Decimal → Bool} {orders : List RestingOrder}

theorem judge_unjudged : (judge reason p reference threshold breaches orders).unjudged =
    if orders.isEmpty = false ∧ threshold = none then [p] else [] := by
  cases orders with
  | nil => rfl
  | cons o rest =>
    cases threshold with
    | none => rfl
    | some t => rfl

/-- What is withdrawn rests, and the threshold has a value. -/
theorem mem_judge {w : Withdrawal}
    (member : w ∈ (judge reason p reference threshold breaches orders).withdrawals) :
    w.order ∈ orders ∧ threshold = some w.threshold := by
  cases orders with
  | nil => exact nomatch member
  | cons o rest =>
    cases threshold with
    | none => exact nomatch member
    | some t =>
      obtain ⟨order, picked, rfl⟩ := List.mem_map.mp member
      exact ⟨(List.mem_filter.mp picked).1, rfl⟩

end Judging

variable (settings : Settings) (prices : Prices) (orders : OpenOrders) (reason : CancelReason)

/-- What a phase holds the orders on one side of a pair against, if it looks at them: nothing if the
pair has no prices, or if its book is empty on that side. -/
def limit? (p : Pair) (side : Side) : Option (Option Decimal) :=
  match reason, side with
  | .unprofitable, .buy =>
    (prices.get? p).map fun q => q.reference.bid.below? settings.buy.unprofitable
  | .unprofitable, .sell =>
    (prices.get? p).map fun q => q.reference.ask.above? settings.sell.unprofitable
  | .outbid, .buy =>
    (((prices.get? p).bind (·.book)).filter fun b => decide (Decimal.zero < b.bid)).map fun b =>
      b.bid.below? settings.buy.outbid
  | .outbid, .sell =>
    (((prices.get? p).bind (·.book)).filter fun b => decide (Decimal.zero < b.ask)).map fun b =>
      b.ask.above? settings.sell.outbid
  | .shutdown, _ => none

/-- Orders rest on this side, and the threshold that they are to be held against has no value. -/
def Unjudged (p : Pair) (side : Side) : Prop :=
  orders.has p side = true ∧ limit? settings prices reason p side = some none

instance (p : Pair) (side : Side) : Decidable (Unjudged settings prices orders reason p side) :=
  inferInstanceAs (Decidable (_ ∧ _))

/-- Hold the orders of one side against a threshold, if there is one to be held against. -/
def judgeIf (limit : Option (Option Decimal)) (p : Pair) (reference : Decimal)
    (breaches : Decimal → Decimal → Bool) (orders : List RestingOrder) : CancelPlan :=
  limit.elim {} fun threshold => judge reason p reference threshold breaches orders

theorem judgeIf_unjudged (limit : Option (Option Decimal)) (p : Pair) (reference : Decimal)
    (breaches : Decimal → Decimal → Bool) (orders : List RestingOrder) :
    (judgeIf reason limit p reference breaches orders).unjudged =
      if orders.isEmpty = false ∧ limit = some none then [p] else [] := by
  cases limit with
  | none => simp [judgeIf]
  | some threshold =>
    rw [judgeIf, Option.elim_some, judge_unjudged]
    simp only [Option.some.injEq]

/-- The plan of a phase for one pair. -/
def planOn (p : Pair) : CancelReason → CancelPlan
  | .unprofitable => unprofitableOn settings prices orders p
  | .outbid => outbidOn settings prices orders p
  | .shutdown => {}

theorem planFor_eq : Progress.planFor settings prices orders reason =
    concat (settings.pairs.map fun p => planOn settings prices orders p reason) := by
  cases reason with
  | unprofitable | outbid => rfl
  | shutdown =>
    have nothing : ∀ pairs : List Pair, concat (pairs.map fun _ => ({} : CancelPlan)) = {} := by
      intro pairs
      induction pairs with
      | nil => rfl
      | cons p pairs ih =>
        rw [List.map_cons]
        exact congrArg (append {}) ih
    exact (nothing settings.pairs).symm

/-- A phase judges the buys of a pair, and then the sells, by their thresholds. -/
theorem planOn_sides (p : Pair) : ∃ bid ask buyBreaches sellBreaches,
    planOn settings prices orders p reason =
      judgeIf reason (limit? settings prices reason p .buy) p bid buyBreaches (orders.on p .buy) ++
        judgeIf reason (limit? settings prices reason p .sell) p ask sellBreaches
          (orders.on p .sell) := by
  cases reason with
  | unprofitable =>
    rw [planOn, unprofitableOn, limit?, limit?]
    cases prices.get? p with
    | none => exact ⟨Decimal.zero, Decimal.zero, isAbove, isBelow, rfl⟩
    | some q => exact ⟨_, _, _, _, rfl⟩
  | outbid =>
    rw [planOn, outbidOn, limit?, limit?]
    cases (prices.get? p).bind (·.book) with
    | none => exact ⟨Decimal.zero, Decimal.zero, isBelow, isAbove, rfl⟩
    | some book =>
      refine ⟨book.bid, book.ask, isBelow, isAbove, congrArg₂ append ?_ ?_⟩
      · by_cases shown : Decimal.zero < book.bid
        · simp [Option.filter_some, shown, judgeIf]
        · simp [Option.filter_some, shown, judgeIf]
      · by_cases shown : Decimal.zero < book.ask
        · simp [Option.filter_some, shown, judgeIf]
        · simp [Option.filter_some, shown, judgeIf]
  | shutdown => exact ⟨Decimal.zero, Decimal.zero, isAbove, isBelow, rfl⟩

/-- Each side that is not judged is counted once. -/
theorem planOn_unjudged (p : Pair) : (planOn settings prices orders p reason).unjudged =
    ([Side.buy, .sell].filter fun side =>
      decide (Unjudged settings prices orders reason p side)).map fun _ => p := by
  obtain ⟨bid, ask, buyBreaches, sellBreaches, both⟩ :=
    planOn_sides settings prices orders reason p
  have one : ∀ side reference breaches, (judgeIf reason (limit? settings prices reason p side) p
      reference breaches (orders.on p side)).unjudged =
        if Unjudged settings prices orders reason p side then [p] else [] := by
    intro side reference breaches
    rw [judgeIf_unjudged]
    refine if_congr (and_congr_left fun _ => ?_) rfl rfl
    rw [OpenOrders.has, Bool.not_eq_true']
  have added : (planOn settings prices orders p reason).unjudged =
      (if Unjudged settings prices orders reason p .buy then [p] else []) ++
        if Unjudged settings prices orders reason p .sell then [p] else [] := by
    rw [both, ← one .buy bid buyBreaches, ← one .sell ask sellBreaches]
    rfl
  rw [added]
  by_cases buy : Unjudged settings prices orders reason p .buy
  · by_cases sell : Unjudged settings prices orders reason p .sell
    · simp [buy, sell]
    · simp [buy, sell]
  · by_cases sell : Unjudged settings prices orders reason p .sell
    · simp [buy, sell]
    · simp [buy, sell]

variable {settings prices orders reason}

/-- What is withdrawn is on a side whose threshold has a value. -/
theorem mem_planOn {p : Pair} {w : Withdrawal}
    (member : w ∈ (planOn settings prices orders p reason).withdrawals) :
    limit? settings prices reason w.order.pair w.order.side = some (some w.threshold) := by
  obtain ⟨bid, ask, buyBreaches, sellBreaches, both⟩ :=
    planOn_sides settings prices orders reason p
  have one : ∀ {side reference breaches}, w ∈ (judgeIf reason (limit? settings prices reason p side)
      p reference breaches (orders.on p side)).withdrawals →
        limit? settings prices reason w.order.pair w.order.side = some (some w.threshold) := by
    intro side reference breaches listed
    cases limit : limit? settings prices reason p side with
    | none =>
      rw [limit] at listed
      cases listed
    | some threshold =>
      rw [limit] at listed
      obtain ⟨resting, rfl⟩ := mem_judge listed
      rw [OpenOrders.on] at resting
      split at resting
      · obtain ⟨-, samePair, sameSide⟩ := RestingOrder.mem_on.mp resting
        rw [samePair, sameSide]
        exact limit
      · cases resting
  rw [both] at member
  rcases List.mem_append.mp member with buy | sell
  · exact one buy
  · exact one sell

end CancelPlan

namespace Proposal

/-- If a boundary of a pair has no value or is not above zero, nothing is proposed on the pair. If a
threshold of a cancel phase has no value, no order of its side is withdrawn; the sides of which this
is so and on which orders rest are those that the plan counts, each of them once. -/
theorem unusable_avoided (settings : Settings) :
    (∀ {p : Pair} {prices : PairPrices} {orders : OpenOrders} {cooldown : Cooldown} {now : Instant}
      {t : Transcript} {o : PairOutcome},
      Path (outcome settings p prices orders cooldown now) t o →
        Decimal.Unusable (prices.reference.bid.below? settings.buy.place) ∨
          Decimal.Unusable (prices.reference.ask.above? settings.sell.place) →
        o.candidates = []) ∧
    ∀ (prices : Prices) (orders : OpenOrders) (reason : CancelReason),
      (∀ p side, CancelPlan.limit? settings prices reason p side = some none →
        ∀ w ∈ (Progress.planFor settings prices orders reason).withdrawals,
          ¬ (w.order.pair = p ∧ w.order.side = side)) ∧
      (Progress.planFor settings prices orders reason).unjudged =
        settings.pairs.flatMap fun p => ([Side.buy, .sell].filter fun side =>
          decide (CancelPlan.Unjudged settings prices orders reason p side)).map fun _ => p := by
  constructor
  · intro p prices orders cooldown now t o path unusable
    apply (outcome_course path).2.nothing_of_unusable
    exact unusable.imp (·.not_positive) (·.not_positive)
  · intro prices orders reason
    rw [CancelPlan.planFor_eq]
    constructor
    · rintro p side missing w member ⟨rfl, rfl⟩
      rw [CancelPlan.concat_withdrawals] at member
      obtain ⟨plan, listed, here⟩ := List.mem_flatMap.mp member
      obtain ⟨q, -, rfl⟩ := List.mem_map.mp listed
      exact nomatch missing.symm.trans (CancelPlan.mem_planOn here)
    · rw [CancelPlan.concat_unjudged, List.flatMap_map]
      exact List.flatMap_congr fun p _ => CancelPlan.planOn_unjudged settings prices orders reason p

/-- Settings of the small market under which a sell may be offered for nothing, and buys are held
against one and a half times the reference. -/
def looseSettings : Settings :=
  { Keeper.small.settings with
    buy := { Settings.defaultBuy with unprofitable := Decimal.neg 0.5 }
    sell := { Settings.defaultSell with place := Decimal.neg Decimal.one } }

/-- What becomes of the pair of the small market under these settings. -/
def looseOutcome : Dialogue PairOutcome :=
  outcome looseSettings ⟨"X", "BTC"⟩
    { reference := ⟨0.0010, 0.0011⟩, book := some ⟨0.00098, 0.00112⟩ }
    ⟨looseSettings.pairs, []⟩ Keeper.small.cooldown (Span.ofSeconds 5)

/-- Prices of the pair with the largest reference that there is. -/
def highestPrices : Prices :=
  { known := ⟨[(⟨"X", "BTC"⟩,
      { reference := ⟨79228162514264337593543950335e0, 79228162514264337593543950335e0⟩
        book := none })]⟩ }

/-- A buy that rests. -/
def oneBuy : OpenOrders where
  managed := [⟨"X", "BTC"⟩]
  orders := [{ id := "#1", pair := ⟨"X", "BTC"⟩, side := .buy, price := 0.0009, amount := 1.0 }]

/-- The boundary of sells is zero, and nothing is proposed. The threshold of buys overflows, and the
one buy is counted and not withdrawn. -/
theorem unusable_avoided_small :
    (∃ t o, Path looseOutcome t o ∧
      Decimal.above? 0.0011 looseSettings.sell.place = some Decimal.zero ∧
      Decimal.Unusable (Decimal.above? 0.0011 looseSettings.sell.place) ∧ o.candidates = []) ∧
    CancelPlan.limit? looseSettings highestPrices .unprofitable ⟨"X", "BTC"⟩ .buy = some none ∧
    (∀ w ∈ (CancelPlan.unprofitable looseSettings highestPrices oneBuy).withdrawals,
      ¬ (w.order.pair = ⟨"X", "BTC"⟩ ∧ w.order.side = .buy)) ∧
    (CancelPlan.unprofitable looseSettings highestPrices oneBuy).unjudged = [⟨"X", "BTC"⟩] := by
  have ended : (looseOutcome.run Rehearsal.world Rehearsal.small).1.toOption.any
      (fun _ => true) = true := by
    decide +kernel
  obtain ⟨t, o, path, -⟩ := path_of_run ended
  have zero : Decimal.above? 0.0011 looseSettings.sell.place = some Decimal.zero := by
    decide +kernel
  have unusable : Decimal.Unusable (Decimal.above? 0.0011 looseSettings.sell.place) := by
    rw [zero]
    rintro v ⟨⟩
    decide +kernel
  have overflow :
      CancelPlan.limit? looseSettings highestPrices .unprofitable ⟨"X", "BTC"⟩ .buy =
        some none := by
    decide +kernel
  obtain ⟨none, plans⟩ := unusable_avoided looseSettings
  obtain ⟨kept, counted⟩ := plans highestPrices oneBuy .unprofitable
  refine ⟨⟨t, o, path, zero, unusable, none path (Or.inr unusable)⟩, overflow,
    kept _ _ overflow, counted.trans ?_⟩
  decide +kernel

/-- Settings under which buys are held against a share of nothing of the reference, and sells
against a share of nothing of the book. -/
def nothingSettings : Settings :=
  { Keeper.small.settings with
    buy := { Settings.defaultBuy with unprofitable := Decimal.one }
    sell := { Settings.defaultSell with outbid := Decimal.neg Decimal.one } }

/-- Prices of the pair of the small market. -/
def usualPrices : Prices :=
  { known := ⟨[(⟨"X", "BTC"⟩,
      { reference := ⟨0.0010, 0.0011⟩, book := some ⟨0.00098, 0.00112⟩ })]⟩ }

/-- A sell that rests. -/
def oneSell : OpenOrders where
  managed := [⟨"X", "BTC"⟩]
  orders := [{ id := "#1", pair := ⟨"X", "BTC"⟩, side := .sell, price := 0.0012, amount := 1.0 }]

/-- Under valid settings the threshold of buys is zero, which is not above zero: the buy is
withdrawn, and nothing is counted. So it is with the threshold of sells in the book. -/
theorem zero_threshold_used : nothingSettings.check = .ok () ∧
    CancelPlan.limit? nothingSettings usualPrices .unprofitable ⟨"X", "BTC"⟩ .buy =
      some (some Decimal.zero) ∧
    Decimal.Unusable (some Decimal.zero) ∧ oneBuy.has ⟨"X", "BTC"⟩ .buy = true ∧
    (CancelPlan.unprofitable nothingSettings usualPrices oneBuy).withdrawals.map (·.order) =
      oneBuy.orders ∧
    (CancelPlan.unprofitable nothingSettings usualPrices oneBuy).unjudged = [] ∧
    CancelPlan.limit? nothingSettings usualPrices .outbid ⟨"X", "BTC"⟩ .sell =
      some (some Decimal.zero) ∧
    (CancelPlan.outbid nothingSettings usualPrices oneSell).withdrawals.map (·.order) =
      oneSell.orders ∧
    (CancelPlan.outbid nothingSettings usualPrices oneSell).unjudged = [] := by
  refine ⟨by decide +kernel, by decide +kernel, ?_, by decide +kernel, by decide +kernel,
    by decide +kernel, by decide +kernel, by decide +kernel, by decide +kernel⟩
  rintro v ⟨⟩
  decide +kernel

end Proposal

end QuoteKeeper
