import QuoteKeeper.Clock
import QuoteKeeper.Market.Order
import QuoteKeeper.Table

/-!
# Settings

All distances are ratios, applied to a price as 1 plus or minus the ratio. The defaults are those of
the tuned strategy.
-/

namespace QuoteKeeper

/-- The distances of one side: the least from the reference and the largest from the book to place
an order, and the same two to keep one. -/
structure SideRatios where
  place : Decimal
  placeDistance : Decimal
  unprofitable : Decimal
  outbid : Decimal
deriving DecidableEq

structure Settings where
  /-- The name of the venue, for notices. -/
  venue : String
  /-- In the order in which they are looked at. -/
  pairs : List Pair
  buy : SideRatios
  sell : SideRatios
  /-- The least time between two proposals on one pair. -/
  reorder : Span
  /-- Target order size by quote currency. -/
  sizes : Table String Decimal
  multiplier : Decimal
  /-- Pairs that are not bought. -/
  buyExcluded : List Pair
  /-- The time between two cycles. -/
  tick : Span
  cancelAllOnShutdown : Bool
deriving DecidableEq

namespace Settings

def defaultBuy : SideRatios where
  place := 0.0050
  placeDistance := 0.02
  unprofitable := 0.0025
  outbid := 0.0300

def defaultSell : SideRatios where
  place := 0.0005
  placeDistance := 0.02
  unprofitable := Decimal.neg 0.0005
  outbid := 0.0300

def defaultSizes : Table String Decimal :=
  ⟨[("USD", 5.0), ("USDT", 5.0), ("BTC", 0.000138), ("ETH", 0.00178)]⟩

def default : Settings where
  venue := "bittrex"
  pairs :=
    [⟨"DUSK", "BTC"⟩, ⟨"NXS", "BTC"⟩, ⟨"PIVX", "BTC"⟩, ⟨"SNX", "ETH"⟩, ⟨"OMG", "ETH"⟩]
  buy := defaultBuy
  sell := defaultSell
  reorder := Span.ofSeconds 5
  sizes := defaultSizes
  multiplier := 1.10
  buyExcluded := []
  tick := Span.ofSeconds 1
  cancelAllOnShutdown := true

def ratios (s : Settings) : Side → SideRatios
  | .buy => s.buy
  | .sell => s.sell

/-- The target size for a quote currency. -/
def size? (s : Settings) (quote : String) : Option Decimal := s.sizes.get? quote

/-- Buying this pair is paused. -/
def excludesBuy (s : Settings) (p : Pair) : Bool := s.buyExcluded.contains p

end Settings

end QuoteKeeper
