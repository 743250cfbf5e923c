import Mathlib.Data.List.Nodup
import QuoteKeeper.Proofs.Cycle.Course

/-!
# What the cancel plans hold

The orders of a plan, without the prices they were held against: pair by pair in the order of the
settings, the buys before the sells, and on each side in the order of the venue. All withdrawals of
a plan have the reason of its phase.
-/

namespace QuoteKeeper

/-- The orders on one side of a pair. -/
def RestingOrder.on (orders : List RestingOrder) (p : Pair) (side : Side) : List RestingOrder :=
  orders.filter fun o => decide (o.pair = p) && decide (o.side = side)

theorem RestingOrder.mem_on {orders : List RestingOrder} {p : Pair} {side : Side}
    {o : RestingOrder} :
    o ∈ RestingOrder.on orders p side ↔ o ∈ orders ∧ o.pair = p ∧ o.side = side := by
  simp [on]

theorem OpenOrders.on_managed {managed : List Pair} {p : Pair} (known : p ∈ managed)
    (orders : List RestingOrder) (side : Side) :
    (OpenOrders.mk managed orders).on p side = RestingOrder.on orders p side := by
  rw [OpenOrders.on, if_pos (List.contains_iff_mem.mpr known)]
  rfl

namespace CancelPlan

/-- The orders of a pair that are past its reference: buys above `bid * (1 - ratio)`, then sells
below `ask * (1 + ratio)`. A threshold without a value is passed by no order. -/
def pastReference (settings : Settings) (orders : List RestingOrder) (p : Pair)
    (reference : BidAsk) : List RestingOrder :=
  (RestingOrder.on orders p .buy).filter
      (fun o => (reference.bid.below? settings.buy.unprofitable).any fun t => decide (t < o.price))
    ++ (RestingOrder.on orders p .sell).filter
      fun o => (reference.ask.above? settings.sell.unprofitable).any fun t => decide (o.price < t)

/-- The orders of a pair that its book has left behind: buys below `bid * (1 - ratio)`, then sells
above `ask * (1 + ratio)`, on the sides of the book that are not empty. -/
def leftBehind (settings : Settings) (orders : List RestingOrder) (p : Pair) (book : BidAsk) :
    List RestingOrder :=
  (RestingOrder.on orders p .buy).filter
      (fun o => decide (Decimal.zero < book.bid) &&
        (book.bid.below? settings.buy.outbid).any fun t => decide (o.price < t))
    ++ (RestingOrder.on orders p .sell).filter
      fun o => decide (Decimal.zero < book.ask) &&
        (book.ask.above? settings.sell.outbid).any fun t => decide (t < o.price)

theorem mem_pastReference {settings : Settings} {orders : List RestingOrder} {p : Pair}
    {reference : BidAsk} {o : RestingOrder}
    (member : o ∈ pastReference settings orders p reference) : o ∈ orders ∧ o.pair = p := by
  rcases List.mem_append.mp member with buy | sell
  · have found := RestingOrder.mem_on.mp (List.mem_filter.mp buy).1
    exact ⟨found.1, found.2.1⟩
  · have found := RestingOrder.mem_on.mp (List.mem_filter.mp sell).1
    exact ⟨found.1, found.2.1⟩

theorem mem_leftBehind {settings : Settings} {orders : List RestingOrder} {p : Pair}
    {book : BidAsk} {o : RestingOrder} (member : o ∈ leftBehind settings orders p book) :
    o ∈ orders ∧ o.pair = p := by
  rcases List.mem_append.mp member with buy | sell
  · have found := RestingOrder.mem_on.mp (List.mem_filter.mp buy).1
    exact ⟨found.1, found.2.1⟩
  · have found := RestingOrder.mem_on.mp (List.mem_filter.mp sell).1
    exact ⟨found.1, found.2.1⟩

/-- Buys and sells that are picked from orders with distinct ids have distinct ids. -/
theorem ids_sides {orders : List RestingOrder} (ids : (orders.map (·.id)).Nodup) (p : Pair)
    (buys sells : RestingOrder → Bool) :
    (((RestingOrder.on orders p .buy).filter buys ++
      (RestingOrder.on orders p .sell).filter sells).map (·.id)).Nodup := by
  have part : ∀ (side : Side) (f : RestingOrder → Bool),
      (((RestingOrder.on orders p side).filter f).map (·.id)).Nodup := fun side f =>
    ids.sublist ((List.filter_sublist.trans List.filter_sublist).map _)
  rw [List.map_append]
  refine List.nodup_append.mpr ⟨part .buy buys, part .sell sells, ?_⟩
  intro i left j right same
  obtain ⟨a, picked, rfl⟩ := List.mem_map.mp left
  obtain ⟨b, picked', rfl⟩ := List.mem_map.mp right
  have buy := RestingOrder.mem_on.mp (List.mem_filter.mp picked).1
  have sell := RestingOrder.mem_on.mp (List.mem_filter.mp picked').1
  have one := List.inj_on_of_nodup_map ids buy.1 sell.1 same
  rw [one, sell.2.2] at buy
  exact nomatch buy.2.2

section Picking

variable {α : Type} {orders : List RestingOrder} {pairs : List Pair} {known : Pair → Option α}
  {pick : Pair → α → List RestingOrder}

/-- What is picked pair by pair, from what is known of each, is on a listed pair of which something
is known. -/
theorem mem_picked (inside : ∀ p a, ∀ o ∈ pick p a, o ∈ orders ∧ o.pair = p) {o : RestingOrder}
    (member : o ∈ pairs.flatMap fun p => (known p).elim [] (pick p)) :
    o ∈ orders ∧ o.pair ∈ pairs ∧ known o.pair ≠ none := by
  obtain ⟨p, listed, here⟩ := List.mem_flatMap.mp member
  cases found : known p with
  | none =>
    rw [found] at here
    exact nomatch here
  | some a =>
    rw [found] at here
    obtain ⟨resting, rfl⟩ := inside p a o here
    rw [found]
    exact ⟨resting, listed, Option.some_ne_none a⟩

/-- If the orders have distinct ids and no pair is listed twice, what is picked has distinct ids. -/
theorem ids_picked (ids : (orders.map (·.id)).Nodup) (distinct : pairs.Nodup)
    (inside : ∀ p a, ∀ o ∈ pick p a, o ∈ orders ∧ o.pair = p)
    (each : ∀ p a, ((pick p a).map (·.id)).Nodup) :
    ((pairs.flatMap fun p => (known p).elim [] (pick p)).map (·.id)).Nodup := by
  have within : ∀ p, ∀ o ∈ (known p).elim [] (pick p), o ∈ orders ∧ o.pair = p := by
    intro p o member
    cases found : known p with
    | none =>
      rw [found] at member
      exact nomatch member
    | some a =>
      rw [found] at member
      exact inside p a o member
  rw [List.map_flatMap]
  refine List.nodup_flatMap.mpr ⟨fun p _ => ?_, distinct.imp fun {p q} different => ?_⟩
  · cases known p with
    | none => exact List.nodup_nil
    | some a => exact each p a
  · intro i left right
    obtain ⟨a, picked, rfl⟩ := List.mem_map.mp left
    obtain ⟨b, picked', same⟩ := List.mem_map.mp right
    have first := within p a picked
    have second := within q b picked'
    have one := List.inj_on_of_nodup_map ids second.1 first.1 same
    exact different (first.2.symm.trans (one ▸ second.2))

end Picking

theorem concat_withdrawals (plans : List CancelPlan) :
    (concat plans).withdrawals = plans.flatMap (·.withdrawals) := by
  induction plans with
  | nil => rfl
  | cons plan plans ih =>
    rw [List.flatMap_cons, ← ih]
    rfl

theorem judge_orders (reason : CancelReason) (p : Pair) (reference : Decimal)
    (threshold : Option Decimal) (breaches : Decimal → Decimal → Bool)
    (orders : List RestingOrder) :
    (judge reason p reference threshold breaches orders).withdrawals.map (·.order) =
      orders.filter fun o => threshold.any (breaches o.price) := by
  cases orders with
  | nil => rfl
  | cons o orders =>
    cases threshold with
    | none => simp [judge]
    | some t =>
      simp only [judge, List.map_map, Option.any_some]
      exact List.map_id _

theorem judge_reason {reason : CancelReason} {p : Pair} {reference : Decimal}
    {threshold : Option Decimal} {breaches : Decimal → Decimal → Bool}
    {orders : List RestingOrder} {w : Withdrawal}
    (member : w ∈ (judge reason p reference threshold breaches orders).withdrawals) :
    w.reason = reason := by
  cases orders with
  | nil => exact nomatch member
  | cons o orders =>
    cases threshold with
    | none => exact nomatch member
    | some t =>
      obtain ⟨order, -, rfl⟩ := List.mem_map.mp member
      rfl

theorem unprofitableOn_reason {settings : Settings} {prices : Prices} {orders : OpenOrders}
    {p : Pair} {w : Withdrawal}
    (member : w ∈ (unprofitableOn settings prices orders p).withdrawals) :
    w.reason = .unprofitable := by
  rw [unprofitableOn] at member
  split at member
  · exact nomatch member
  · rcases List.mem_append.mp member with buy | sell
    · exact judge_reason buy
    · exact judge_reason sell

theorem outbidOn_reason {settings : Settings} {prices : Prices} {orders : OpenOrders}
    {p : Pair} {w : Withdrawal} (member : w ∈ (outbidOn settings prices orders p).withdrawals) :
    w.reason = .outbid := by
  rw [outbidOn] at member
  split at member
  · exact nomatch member
  · rcases List.mem_append.mp member with buy | sell
    · split at buy
      · exact judge_reason buy
      · exact nomatch buy
    · split at sell
      · exact judge_reason sell
      · exact nomatch sell

theorem concat_reason {reason : CancelReason} {plan : Pair → CancelPlan}
    (each : ∀ p, ∀ w ∈ (plan p).withdrawals, w.reason = reason) {pairs : List Pair}
    {w : Withdrawal} (member : w ∈ (concat (pairs.map plan)).withdrawals) : w.reason = reason := by
  rw [concat_withdrawals] at member
  obtain ⟨part, listed, here⟩ := List.mem_flatMap.mp member
  obtain ⟨p, -, rfl⟩ := List.mem_map.mp listed
  exact each p w here

theorem unprofitable_reason {settings : Settings} {prices : Prices} {orders : OpenOrders}
    {w : Withdrawal} (member : w ∈ (unprofitable settings prices orders).withdrawals) :
    w.reason = .unprofitable :=
  concat_reason (fun _ _ => unprofitableOn_reason) member

theorem outbid_reason {settings : Settings} {prices : Prices} {orders : OpenOrders}
    {w : Withdrawal} (member : w ∈ (outbid settings prices orders).withdrawals) :
    w.reason = .outbid :=
  concat_reason (fun _ _ => outbidOn_reason) member

theorem unprofitableOn_orders {settings : Settings} {prices : Prices}
    {orders : List RestingOrder} {p : Pair} (known : p ∈ settings.pairs) :
    (unprofitableOn settings prices ⟨settings.pairs, orders⟩ p).withdrawals.map (·.order) =
      (prices.get? p).elim [] fun q => pastReference settings orders p q.reference := by
  rw [unprofitableOn]
  cases prices.get? p with
  | none => rfl
  | some q =>
    change List.map _ (_ ++ _) = pastReference settings orders p q.reference
    rw [List.map_append, judge_orders, judge_orders, OpenOrders.on_managed known,
      OpenOrders.on_managed known]
    rfl

theorem outbidOn_orders {settings : Settings} {prices : Prices} {orders : List RestingOrder}
    {p : Pair} (known : p ∈ settings.pairs) :
    (outbidOn settings prices ⟨settings.pairs, orders⟩ p).withdrawals.map (·.order) =
      ((prices.get? p).bind (·.book)).elim [] (leftBehind settings orders p) := by
  rw [outbidOn]
  cases (prices.get? p).bind (·.book) with
  | none => rfl
  | some book =>
    change List.map _ (CancelPlan.withdrawals _ ++ CancelPlan.withdrawals _) =
      leftBehind settings orders p book
    rw [leftBehind]
    rw [List.map_append]
    congr 1
    · by_cases shown : Decimal.zero < book.bid
      · simp only [shown, if_true, decide_true, Bool.true_and]
        rw [judge_orders, OpenOrders.on_managed known]
        rfl
      · simp [shown]
    · by_cases shown : Decimal.zero < book.ask
      · simp only [shown, if_true, decide_true, Bool.true_and]
        rw [judge_orders, OpenOrders.on_managed known]
        rfl
      · simp [shown]

theorem unprofitable_orders (settings : Settings) (prices : Prices)
    (orders : List RestingOrder) :
    (unprofitable settings prices ⟨settings.pairs, orders⟩).withdrawals.map (·.order) =
      settings.pairs.flatMap fun p =>
        (prices.get? p).elim [] fun q => pastReference settings orders p q.reference := by
  rw [unprofitable, concat_withdrawals, List.map_flatMap, List.flatMap_map]
  exact List.flatMap_congr fun p known => unprofitableOn_orders known

theorem outbid_orders (settings : Settings) (prices : Prices) (orders : List RestingOrder) :
    (outbid settings prices ⟨settings.pairs, orders⟩).withdrawals.map (·.order) =
      settings.pairs.flatMap fun p =>
        ((prices.get? p).bind (·.book)).elim [] (leftBehind settings orders p) := by
  rw [outbid, concat_withdrawals, List.map_flatMap, List.flatMap_map]
  exact List.flatMap_congr fun p known => outbidOn_orders known

end CancelPlan

end QuoteKeeper
