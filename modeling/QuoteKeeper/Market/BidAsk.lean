import QuoteKeeper.Decimal.Quotient

/-!
# Two-sided prices

A bid and an ask, of the reference or of a book, and the prices at a relative distance from one of
them. A computed price that does not fit is no value.
-/

namespace QuoteKeeper

structure BidAsk where
  bid : Decimal
  ask : Decimal
deriving DecidableEq

namespace BidAsk

/-- Both prices are above zero; otherwise the data is stale or missing. -/
def isValid (q : BidAsk) : Bool := decide (Decimal.zero < q.bid) && decide (Decimal.zero < q.ask)

/-- As it stands in log fields. -/
def text (q : BidAsk) : String :=
  "BidAsk \x7b bid: " ++ q.bid.text ++ ", ask: " ++ q.ask.text ++ " \x7d"

end BidAsk

namespace Decimal

/-- `price * (1 - ratio)`. -/
def below? (price ratio : Decimal) : Option Decimal := do mul? price (← sub? one ratio)

/-- `price * (1 + ratio)`. -/
def above? (price ratio : Decimal) : Option Decimal := do mul? price (← add? one ratio)

/-- Half of the sum, each rounded. -/
def midpoint? (a b : Decimal) : Option Decimal := do div? (← add? a b) two

end Decimal

end QuoteKeeper
