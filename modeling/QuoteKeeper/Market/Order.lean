import QuoteKeeper.Decimal.Arithmetic
import QuoteKeeper.Market.Pair

/-!
# Orders

A candidate is a maker order not yet sent, a resting order one that a venue holds under an id, a
fill the execution of a resting order.
-/

namespace QuoteKeeper

inductive Side where
  | buy
  | sell
deriving DecidableEq, Inhabited

namespace Side

def text : Side → String
  | buy => "BUY"
  | sell => "SELL"

/-- As it stands in JSON. -/
def lower : Side → String
  | buy => "buy"
  | sell => "sell"

instance : ToString Side := ⟨text⟩

end Side

/-- Ids are given out by the venue. -/
abbrev OrderId := String

structure RestingOrder where
  id : OrderId
  pair : Pair
  side : Side
  price : Decimal
  amount : Decimal
deriving DecidableEq

/-- A limit order that must not execute at once. -/
structure Candidate where
  pair : Pair
  side : Side
  price : Decimal
  amount : Decimal
deriving DecidableEq

structure Fill where
  id : OrderId
  pair : Pair
  side : Side
  price : Decimal
  amount : Decimal
deriving DecidableEq

/-- The value of the order in quote currency. -/
def Candidate.notional? (c : Candidate) : Option Decimal := Decimal.mul? c.price c.amount

/-- The order that a candidate becomes. -/
def Candidate.rest (c : Candidate) (id : OrderId) : RestingOrder :=
  { id, pair := c.pair, side := c.side, price := c.price, amount := c.amount }

/-- Orders are filled whole, at their own price. -/
def RestingOrder.fill (o : RestingOrder) : Fill :=
  { id := o.id, pair := o.pair, side := o.side, price := o.price, amount := o.amount }

end QuoteKeeper
