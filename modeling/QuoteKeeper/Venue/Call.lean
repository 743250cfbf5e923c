import QuoteKeeper.Failure

/-!
# Calls to a venue

A call and the kind of answer it has if it does not fail.
-/

namespace QuoteKeeper

/-- The six calls that a venue understands, without their arguments. -/
inductive CallKind where
  | topOfBook
  | openOrders
  | balance
  | cancel
  | place
  | budgetAdjust
deriving DecidableEq

namespace CallKind

/-- The name of the call. -/
def name : CallKind → String
  | topOfBook => "top_of_book"
  | openOrders => "open_orders"
  | balance => "available_balance"
  | cancel => "cancel"
  | place => "place"
  | budgetAdjust => "budget_adjust"

end CallKind

inductive Call where
  /-- The best bid for the buy side, the best ask for the sell side. -/
  | topOfBook (pair : Pair) (side : Side)
  | openOrders
  | balance (currency : String)
  | cancel (pair : Pair) (id : OrderId)
  | place (candidate : Candidate)
  /-- The part of a batch that the account can pay for, or with `allOrNone` the whole batch or
  nothing. -/
  | budgetAdjust (batch : List Candidate) (allOrNone : Bool)
deriving DecidableEq

namespace Call

def kind : Call → CallKind
  | topOfBook _ _ => .topOfBook
  | openOrders => .openOrders
  | balance _ => .balance
  | cancel _ _ => .cancel
  | place _ => .place
  | budgetAdjust _ _ => .budgetAdjust

/-- The answer to a call. -/
abbrev Answer : Call → Type
  | topOfBook _ _ => Decimal
  | openOrders => List RestingOrder
  | balance _ => Decimal
  | cancel _ _ => Unit
  | place _ => OrderId
  | budgetAdjust _ _ => List Candidate

/-- What comes back from a call. -/
abbrev Reply (c : Call) : Type := Except CallError c.Answer

/-- The call with its arguments, on one line. -/
def text : Call → String
  | topOfBook pair side => s!"top_of_book {pair} {side}"
  | openOrders => "open_orders"
  | balance currency => s!"available_balance {currency}"
  | cancel pair id => s!"cancel {pair} {id}"
  | place c => s!"place {c.pair} {c.side} {c.price} {c.amount}"
  | budgetAdjust batch allOrNone => s!"budget_adjust {batch.length} {allOrNone}"

end Call

end QuoteKeeper
