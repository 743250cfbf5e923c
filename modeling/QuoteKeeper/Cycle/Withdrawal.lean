import QuoteKeeper.Cycle.Snapshot
import QuoteKeeper.Settings.Basic

/-!
# Which orders to cancel

Two rules, both pure. An order is unprofitable if it is nearer to the reference than its side's
ratio allows; it is outbid if it is farther from the best price of the book than its side's ratio
allows. A side whose threshold has no value keeps its orders.
-/

namespace QuoteKeeper

/-- An order to cancel, with the price and threshold it was held against. -/
structure Withdrawal where
  order : RestingOrder
  reference : Decimal
  threshold : Decimal
  reason : CancelReason
deriving DecidableEq

/-- The orders to cancel, and the pairs with a side that could not be judged. -/
structure CancelPlan where
  withdrawals : List Withdrawal := []
  unjudged : List Pair := []
deriving DecidableEq

namespace CancelPlan

def append (a b : CancelPlan) : CancelPlan where
  withdrawals := a.withdrawals ++ b.withdrawals
  unjudged := a.unjudged ++ b.unjudged

instance : Append CancelPlan := ⟨append⟩

/-- The plans one after the other. -/
def concat (plans : List CancelPlan) : CancelPlan := plans.foldr append {}

def unjudgedLine (p : Pair) : LogLine :=
  .warn ("⚠️ " ++ (Failure.unusablePrice "cancel threshold" p none).message)

/-- Hold the orders of one side against a threshold. -/
def judge (reason : CancelReason) (p : Pair) (reference : Decimal) (threshold : Option Decimal)
    (breaches : Decimal → Decimal → Bool) (orders : List RestingOrder) : CancelPlan :=
  match orders, threshold with
  | [], _ => {}
  | _ :: _, none => { unjudged := [p] }
  | o :: rest, some t =>
    { withdrawals :=
        ((o :: rest).filter (breaches ·.price t)).map fun order =>
          { order, reference, threshold := t, reason } }

/-- Strictly above the threshold. -/
def isAbove (price threshold : Decimal) : Bool := decide (threshold < price)

/-- Strictly below the threshold. -/
def isBelow (price threshold : Decimal) : Bool := decide (price < threshold)

/-- Buys above `bid * (1 - ratio)` and sells below `ask * (1 + ratio)` of the reference. -/
def unprofitableOn (settings : Settings) (prices : Prices) (orders : OpenOrders) (p : Pair) :
    CancelPlan :=
  match prices.get? p with
  | none => {}
  | some { reference, .. } =>
    judge .unprofitable p reference.bid (reference.bid.below? settings.buy.unprofitable) isAbove
        (orders.on p .buy)
      ++ judge .unprofitable p reference.ask (reference.ask.above? settings.sell.unprofitable)
        isBelow (orders.on p .sell)

/-- Buys below `bid * (1 - ratio)` and sells above `ask * (1 + ratio)` of the book, on the sides of
the book that are not empty. -/
def outbidOn (settings : Settings) (prices : Prices) (orders : OpenOrders) (p : Pair) :
    CancelPlan :=
  match (prices.get? p).bind (·.book) with
  | none => {}
  | some book =>
    (if Decimal.zero < book.bid then
        judge .outbid p book.bid (book.bid.below? settings.buy.outbid) isBelow (orders.on p .buy)
      else {})
      ++ (if Decimal.zero < book.ask then
        judge .outbid p book.ask (book.ask.above? settings.sell.outbid) isAbove (orders.on p .sell)
      else {})

def unprofitable (settings : Settings) (prices : Prices) (orders : OpenOrders) : CancelPlan :=
  concat (settings.pairs.map (unprofitableOn settings prices orders))

def outbid (settings : Settings) (prices : Prices) (orders : OpenOrders) : CancelPlan :=
  concat (settings.pairs.map (outbidOn settings prices orders))

/-- A line for each side that could not be judged. -/
def logUnjudged : List Pair → Dialogue Unit
  | [] => return
  | p :: rest => do
    Dialogue.log (unjudgedLine p)
    logUnjudged rest

end CancelPlan

end QuoteKeeper
