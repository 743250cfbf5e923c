import QuoteKeeper.Proofs.Venue.Solvency

/-!
# What the books reach is filled

Filling takes the orders that the books have reached out of those that rest and moves the money for
them, in the order in which they were placed. A balance afterwards is the one from before with the
legs of the fills added to it one after the other, each sum rounded. Nothing that still rests is
reached, so filling once more does nothing.
-/

namespace QuoteKeeper

open Decimal

/-- The two legs of a fill, what is taken before what is given: currencies and changes. -/
def Fill.legs? (f : Fill) : Option (List (String × Decimal)) := do
  let value ← mul? f.price f.amount
  match f.side with
  | .buy => return [(f.pair.quote, value.neg), (f.pair.base, f.amount)]
  | .sell => return [(f.pair.base, f.amount.neg), (f.pair.quote, value)]

/-- An amount of a currency after some changes, one after the other. -/
def applied (currency : String) (amount : Decimal) : List (String × Decimal) → Option Decimal
  | [] => some amount
  | leg :: rest =>
    if leg.1 = currency then do
      applied currency (← amount.add? leg.2) rest
    else
      applied currency amount rest

theorem applied_append (currency : String) (amount : Decimal) (first rest : List (String × Decimal)) :
    applied currency amount (first ++ rest) = (do
      applied currency (← applied currency amount first) rest) := by
  induction first generalizing amount with
  | nil => rfl
  | cons leg first ih =>
    rw [List.cons_append, applied, applied]
    split
    next here =>
      cases amount.add? leg.2 with
      | none => rfl
      | some sum => exact ih sum
    next => exact ih amount

namespace Paper

/-- The book of the pair has come to the order: the ask is down at the price of a buy, the bid up at
that of a sell. A price that is not above zero reaches nothing. -/
inductive Reached (v : Paper) (o : RestingOrder) : Prop
  | buy {book : BidAsk} (known : v.books.get? o.pair = some book) (side : o.side = .buy)
      (shown : zero < book.ask) (down : book.ask ≤ o.price)
  | sell {book : BidAsk} (known : v.books.get? o.pair = some book) (side : o.side = .sell)
      (shown : zero < book.bid) (up : o.price ≤ book.bid)

theorem crosses_iff {v : Paper} {o : RestingOrder} : v.crosses o = true ↔ v.Reached o := by
  rw [crosses]
  constructor
  · intro crossed
    split at crossed
    next => cases crossed
    next book known =>
      split at crossed
      next side =>
        obtain ⟨shown, down⟩ := Bool.and_eq_true_iff.mp crossed
        exact .buy known side (of_decide_eq_true shown) (of_decide_eq_true down)
      next side =>
        obtain ⟨shown, up⟩ := Bool.and_eq_true_iff.mp crossed
        exact .sell known side (of_decide_eq_true shown) (of_decide_eq_true up)
  · intro reached
    cases reached with
    | buy known side shown down => simp [known, side, shown, down]
    | sell known side shown up => simp [known, side, shown, up]

instance (v : Paper) (o : RestingOrder) : Decidable (v.Reached o) :=
  decidable_of_iff _ crosses_iff

theorem crosses_eq (v : Paper) : v.crosses = fun o => decide (v.Reached o) :=
  funext fun _ => Bool.eq_iff_iff.mpr (crosses_iff.trans decide_eq_true_iff.symm)

/-! ### Money -/

theorem credit_applied {v w : Paper} {currency : String} {change : Decimal}
    (done : v.credit currency change = .ok w) (other : String) :
    applied other (v.balance other) [(currency, change)] = some (w.balance other) := by
  obtain ⟨amount, added, ends⟩ := Overflow.bind_eq_ok_iff.mp done
  obtain rfl := Except.ok.inj ends
  rw [applied, balance_setBalance]
  split
  next same =>
    subst same
    rw [Decimal.add] at added
    split at added
    next found =>
      rw [found, ← Except.ok.inj added]
      rfl
    next => cases added
  next => rfl

theorem settle_applied {v w : Paper} {o : RestingOrder} (done : v.settle o = .ok w) :
    ∃ legs, o.fill.legs? = some legs ∧
      ∀ currency, applied currency (v.balance currency) legs = some (w.balance currency) := by
  obtain ⟨value, u, computed, first, second⟩ := settle_changes done
  refine ⟨[(changes o value).1, (changes o value).2], ?_, fun currency => ?_⟩
  · rw [Fill.legs?, RestingOrder.fill, computed, changes]
    cases o.side with
    | buy => rfl
    | sell => rfl
  · rw [← List.singleton_append, applied_append, credit_applied first]
    exact credit_applied second currency

theorem settleAll_applied {orders : List RestingOrder} {v w : Paper}
    (done : v.settleAll orders = .ok w) :
    ∃ legs, (orders.map (·.fill)).mapM Fill.legs? = some legs ∧ ∀ currency,
      applied currency (v.balance currency) legs.flatten = some (w.balance currency) := by
  induction orders generalizing v with
  | nil =>
    obtain rfl := Except.ok.inj done
    exact ⟨[], rfl, fun _ => rfl⟩
  | cons o orders ih =>
    obtain ⟨u, first, rest⟩ := Overflow.bind_eq_ok_iff.mp done
    obtain ⟨legs, two, before⟩ := settle_applied first
    obtain ⟨more, others, after⟩ := ih rest
    refine ⟨legs :: more, ?_, fun currency => ?_⟩
    · rw [List.map_cons, List.mapM_cons, two, others]
      rfl
    · rw [List.flatten_cons, applied_append, before]
      exact after currency

/-! ### Filling once and again -/

/-- If nothing is reached, nothing happens. -/
theorem fillCrossed_nothing {v : Paper} (waiting : ∀ o ∈ v.orders, ¬ v.Reached o) :
    v.fillCrossed = .ok ([], v) := by
  have crossed : v.orders.filter v.crosses = [] :=
    List.filter_eq_nil_iff.mpr fun o resting crosses => waiting o resting (crosses_iff.mp crosses)
  have resting : v.orders.filter (!v.crosses ·) = v.orders := by
    refine List.filter_eq_self.mpr fun o resting => ?_
    rw [Bool.not_eq_true', Bool.eq_false_iff]
    exact mt crosses_iff.mp (waiting o resting)
  rw [fillCrossed, crossed, resting]
  rfl

theorem Reached.of_books {v w : Paper} {o : RestingOrder} (reached : w.Reached o)
    (same : w.books = v.books) : v.Reached o := by
  cases reached with
  | buy known side shown down => exact .buy (same ▸ known) side shown down
  | sell known side shown up => exact .sell (same ▸ known) side shown up

/-- The fills are the orders that the books have reached, in the order in which they were placed, at
their own price and whole. The others stay, in their order. Every balance is what it was with the
legs of the fills added in that order. Nothing else changes, no order that stays is reached, and
filling again fills nothing and changes nothing. -/
theorem fillCrossed_filled {v w : Paper} {fills : List Fill}
    (done : v.fillCrossed = .ok (fills, w)) :
    fills = (v.orders.filter (v.Reached ·)).map
        (fun o => ⟨o.id, o.pair, o.side, o.price, o.amount⟩) ∧
      w.orders = v.orders.filter (¬ v.Reached ·) ∧
      (∃ legs, fills.mapM Fill.legs? = some legs ∧ ∀ currency,
        applied currency (v.balance currency) legs.flatten = some (w.balance currency)) ∧
      w.books = v.books ∧ w.canceled = v.canceled ∧ w.failing = v.failing ∧
      w.issued = v.issued ∧ (∀ o ∈ w.orders, ¬ w.Reached o) ∧ w.fillCrossed = .ok ([], w) := by
  have money := fillCrossed_money done
  have orders : w.orders = v.orders.filter (¬ v.Reached ·) := by
    rw [fillCrossed_orders done, crosses_eq]
    simp only [decide_not]
  have waiting : ∀ o ∈ w.orders, ¬ w.Reached o := by
    intro o resting reached
    rw [orders] at resting
    exact of_decide_eq_true (List.mem_filter.mp resting).2 (reached.of_books money.books)
  have reached : fills = (v.orders.filter (v.Reached ·)).map (·.fill) := by
    rw [fillCrossed_fills done, crosses_eq]
  obtain ⟨settled, moves, ends⟩ := Overflow.bind_eq_ok_iff.mp done
  obtain ⟨rfl, rfl⟩ := Prod.mk.inj (Except.ok.inj ends)
  obtain ⟨legs, listed, balances⟩ := settleAll_applied moves
  exact ⟨reached, orders, ⟨legs, listed, balances⟩, money.books, money.canceled,
    money.failing, money.issued, waiting, fillCrossed_nothing waiting⟩

/-- The small market with a buy and a sell that the book has reached, and a sell that it has not. -/
def smallCrowded : Paper :=
  let reached := (smallReached.rest { smallBuy with side := .sell, price := 0.0009 }).2
  (reached.rest { smallBuy with side := .sell, price := 0.0012 }).2

theorem fillCrossed_filled_small : ∃ fills w, smallCrowded.fillCrossed = .ok (fills, w) ∧
    fills.map (·.id) = ["#1", "#2"] ∧ w.orders.map (·.id) = ["#3"] ∧
    (w.balance "BTC").value = 1 - 19 / 2000 + 9 / 1000 ∧ w.fillCrossed = .ok ([], w) := by
  have ended : smallCrowded.fillCrossed.toOption.map
      (fun result => (result.2.balance "BTC").value) = some (1 - 19 / 2000 + 9 / 1000) := by
    decide +kernel
  cases done : smallCrowded.fillCrossed with
  | error e =>
    rw [done] at ended
    cases ended
  | ok result =>
    obtain ⟨fills, w⟩ := result
    rw [done] at ended
    obtain ⟨filled, orders, -, -, -, -, -, -, again⟩ := fillCrossed_filled done
    exact ⟨fills, w, rfl, by rw [filled]; decide +kernel, by rw [orders]; decide +kernel,
      Option.some.inj ended, again⟩

end Paper

end QuoteKeeper
