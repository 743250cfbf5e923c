import QuoteKeeper.Cooldown
import QuoteKeeper.Cycle.Snapshot
import QuoteKeeper.Settings.Basic

/-!
# Proposals

New orders for one pair with a valid reference. A buy rests below the reference, at most at the
boundary and otherwise half way between the boundary and the best bid; a sell likewise above it. A
buy is worth the target size and must stay below 99% of what the balance could buy; a sell offers
the whole base balance, which must not be below the target size.
-/

namespace QuoteKeeper

/-- The price of a new order, or none near enough to the book. -/
inductive SidePlan where
  | place (price : Decimal)
  | tooFar
deriving DecidableEq

namespace SidePlan

/-- No value if a price on the way overflows. With nobody bidding the price is the boundary. -/
def buy? (boundary bid distance : Decimal) : Option SidePlan :=
  if bid ≤ Decimal.zero then
    some (place boundary)
  else do
    let farthest ← boundary.above? distance
    if farthest < bid then
      return tooFar
    else if bid < boundary then
      return place (← boundary.midpoint? bid)
    else
      return place boundary

/-- No value if a price on the way overflows. With nobody asking the price is the boundary. -/
def sell? (boundary ask distance : Decimal) : Option SidePlan :=
  if ask ≤ Decimal.zero then
    some (place boundary)
  else do
    let nearest ← boundary.below? distance
    if ask < nearest then
      return tooFar
    else if boundary < ask then
      return place (← boundary.midpoint? ask)
    else
      return place boundary

end SidePlan

/-- What became of one side of a pair. -/
inductive SideOutcome where
  | order (candidate : Candidate)
  /-- An order rests there already. -/
  | resting
  | excluded
  | tooFar
  | noFunds
  /-- A price or an amount has no value or is not positive. -/
  | noPrice
  /-- The balance could not be read. -/
  | unread
deriving DecidableEq

namespace SideOutcome

def candidates : SideOutcome → List Candidate
  | order c => [c]
  | _ => []

def skips : SideOutcome → SkipCounts
  | excluded => { excluded := 1 }
  | tooFar => { distance := 1 }
  | noFunds => { balance := 1 }
  | noPrice => { invalidPrice := 1 }
  | order _ | resting | unread => {}

def failures : SideOutcome → Nat
  | unread => 1
  | _ => 0

end SideOutcome

/-- What became of a pair: put off as a whole, or looked at on both sides. -/
inductive PairOutcome where
  | waiting
  | noBook
  | noBoundary
  | noSize
  | sides (buy sell : SideOutcome)
deriving DecidableEq

namespace PairOutcome

/-- The buy before the sell. -/
def candidates : PairOutcome → List Candidate
  | sides buy sell => buy.candidates ++ sell.candidates
  | _ => []

def skips : PairOutcome → SkipCounts
  | waiting => { time := 1 }
  | noBook => { bookUnavailable := 1 }
  | noBoundary => { invalidPrice := 1 }
  | noSize => { noTargetSize := 1 }
  | sides buy sell => buy.skips + sell.skips

def failures : PairOutcome → Nat
  | sides buy sell => buy.failures + sell.failures
  | _ => 0

end PairOutcome

namespace Proposal

/-- The share of the quote balance that a buy may use. -/
def safety : Decimal := 0.99

/-- A computed value is unusable. -/
def unusableLine (what : String) (p : Pair) (value : Option Decimal) : LogLine :=
  .warn ("⚠️ " ++ (Failure.unusablePrice what p value).message)

def unreadLine (e : CallError) : LogLine :=
  .warn ("⚠️ " ++ (Failure.venueCall "available_balance" e).message)

def fundsLine (p : Pair) (side : Side) (currency : String) (amount allowed : Decimal) : LogLine :=
  .debug (Failure.insufficientFunds p side currency amount allowed).message

def restingLine (p : Pair) (side : Side) : LogLine :=
  (LogLine.debug (side.lower ++ " already resting")).withFields [("pair", p.text)]

/-- The name of the best price of a side in log fields. -/
def bestName : Side → String
  | .buy => "tob_bid"
  | .sell => "tob_ask"

/-- The name of the boundary of a side in log fields. -/
def boundaryName : Side → String
  | .buy => "buy_max"
  | .sell => "sell_min"

def tooFarLine (p : Pair) (side : Side) (best boundary : Decimal) : LogLine :=
  (LogLine.debug (side.lower ++ " too far from top of book")).withFields
    [("pair", p.text), (bestName side, best.text), (boundaryName side, boundary.text)]

def candidateLine (c : Candidate) (best boundary : Decimal) : LogLine :=
  (LogLine.info s!"💡 Proposal {c.side} {c.amount} {c.pair}@{c.price}").withFields
    [("pair", c.pair.text), ("side", c.side.text), ("price", c.price.text),
      ("amount", c.amount.text), ("ref_boundary", boundary.text), (bestName c.side, best.text)]

/-- Report a side without an order. -/
def without (line : LogLine) (outcome : SideOutcome) : Dialogue SideOutcome := do
  Dialogue.log line
  return outcome

def accept (c : Candidate) (best boundary : Decimal) : Dialogue SideOutcome := do
  Dialogue.log (candidateLine c best boundary)
  return .order c

/-- The amount that is worth the target size, enlarged by the multiplier. -/
def buyAmount? (settings : Settings) (target price : Decimal) : Option Decimal := do
  Decimal.div? (← Decimal.mul? target settings.multiplier) price

/-- The amount that a quote balance allows; none if it overflows. -/
def allowedAmount (available price : Decimal) : Decimal :=
  ((available.div? price).bind (·.mul? safety)).getD Decimal.zero

/-- A buy at a known price, for the target size. -/
def buyAt (settings : Settings) (p : Pair) (boundary bid target price : Decimal) :
    Dialogue SideOutcome :=
  let computed := buyAmount? settings target price
  match computed.bind Decimal.positive? with
  | none => without (unusableLine "buy_amount" p computed) .noPrice
  | some amount => do
    match ← Dialogue.call (.balance p.quote) with
    | .error e => without (unreadLine e) .unread
    | .ok available =>
      let allowed := allowedAmount available price
      if allowed ≤ amount then
        without (fundsLine p .buy p.quote amount allowed) .noFunds
      else
        accept { pair := p, side := .buy, price, amount } bid boundary

def buySide (settings : Settings) (p : Pair) (boundary bid target : Decimal) :
    Dialogue SideOutcome :=
  match SidePlan.buy? boundary bid settings.buy.placeDistance with
  | none => without (unusableLine "buy_price" p none) .noPrice
  | some .tooFar => without (tooFarLine p .buy bid boundary) .tooFar
  | some (.place price) => buyAt settings p boundary bid target price

/-- A sell at a known price, of the whole balance. -/
def sellAt (p : Pair) (boundary ask target price : Decimal) : Dialogue SideOutcome := do
  match ← Dialogue.call (.balance p.base) with
  | .error e => without (unreadLine e) .unread
  | .ok amount =>
    if amount < target then
      without (fundsLine p .sell p.base amount target) .noFunds
    else
      accept { pair := p, side := .sell, price, amount } ask boundary

def sellSide (settings : Settings) (p : Pair) (boundary ask target : Decimal) :
    Dialogue SideOutcome :=
  match SidePlan.sell? boundary ask settings.sell.placeDistance with
  | none => without (unusableLine "sell_price" p none) .noPrice
  | some .tooFar => without (tooFarLine p .sell ask boundary) .tooFar
  | some (.place price) => sellAt p boundary ask target price

/-- Both sides of a pair, each unless an order rests there. -/
def sides (settings : Settings) (p : Pair) (orders : OpenOrders) (book : BidAsk)
    (buyMax sellMin target : Decimal) : Dialogue PairOutcome := do
  let buy ←
    if orders.has p .buy then without (restingLine p .buy) .resting
    else if settings.excludesBuy p then pure .excluded
    else buySide settings p buyMax book.bid target
  let sell ←
    if orders.has p .sell then without (restingLine p .sell) .resting
    else sellSide settings p sellMin book.ask target
  return .sides buy sell

/-- A pair whose interval is over and whose book is known. -/
def withBook (settings : Settings) (p : Pair) (reference book : BidAsk) (orders : OpenOrders) :
    Dialogue PairOutcome :=
  let buyMax := reference.bid.below? settings.buy.place
  let sellMin := reference.ask.above? settings.sell.place
  match buyMax.bind Decimal.positive?, sellMin.bind Decimal.positive? with
  | none, _ => do
    Dialogue.log (unusableLine "buy_price_max" p buyMax)
    return .noBoundary
  | some _, none => do
    Dialogue.log (unusableLine "sell_price_min" p sellMin)
    return .noBoundary
  | some b, some s =>
    match settings.size? p.quote with
    | none => do
      Dialogue.log (.warn s!"⚠️ No target size for {p.quote}; skipping {p}")
      return .noSize
    | some target => sides settings p orders book b s target

/-- What becomes of a pair at the time `now`. -/
def outcome (settings : Settings) (p : Pair) (prices : PairPrices) (orders : OpenOrders)
    (cooldown : Cooldown) (now : Instant) : Dialogue PairOutcome :=
  if cooldown.waits p now settings.reorder then
    return .waiting
  else
    match prices.book with
    | none => return .noBook
    | some book => withBook settings p prices.reference book orders

/-- A pair with candidates begins a new interval. -/
def stamp (cooldown : Cooldown) (p : Pair) (now : Instant) (o : PairOutcome) : Cooldown :=
  if o.candidates.isEmpty then cooldown else cooldown.recordOrder p now

end Proposal

end QuoteKeeper
