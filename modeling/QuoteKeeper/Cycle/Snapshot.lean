import QuoteKeeper.Dialogue
import QuoteKeeper.Table

/-!
# Snapshots

Prices and resting orders as they are read once, at the start of a cycle, and then shared by all of
its phases.
-/

namespace QuoteKeeper

/-- The prices of a pair with a valid reference. The book is missing if it could not be read; a side
of it may be empty, which shows as a price that is not positive. -/
structure PairPrices where
  reference : BidAsk
  book : Option BidAsk
deriving DecidableEq

/-- What was read of one pair: nothing if the reference is stale or missing. -/
abbrev Reading := Option PairPrices

namespace Reading

/-- Bid, then ask; the ask is not asked for if the bid fails. -/
def book (p : Pair) : Dialogue (Except Failure BidAsk) := do
  match ← Dialogue.call (.topOfBook p .buy) with
  | .error e => return .error (.venueCall "top_of_book" e)
  | .ok bid =>
    match ← Dialogue.call (.topOfBook p .sell) with
    | .error e => return .error (.venueCall "top_of_book" e)
    | .ok ask => return .ok { bid, ask }

/-- A reference as it stands in log fields. -/
def referenceText : Option BidAsk → String
  | none => "None"
  | some q => "Some(" ++ q.text ++ ")"

/-- The line for a pair without a valid reference. -/
def staleLine (p : Pair) (reference : Option BidAsk) : LogLine :=
  (LogLine.debug (Failure.staleReference p).message).withFields
    [("reference", referenceText reference)]

def bookLine (p : Pair) (e : Failure) : LogLine :=
  (LogLine.warn ("⚠️ " ++ e.message)).withFields [("pair", p.text)]

/-- The book of a pair with a valid reference. -/
def ofReference (p : Pair) (reference : BidAsk) : Dialogue Reading := do
  match ← book p with
  | .ok b => return some { reference, book := some b }
  | .error e =>
    Dialogue.log (bookLine p e)
    return some { reference, book := none }

/-- The book is not read if the reference is stale or missing. -/
def ofPair (p : Pair) : Dialogue Reading := do
  match ← Dialogue.reference p with
  | none =>
    Dialogue.log (staleLine p none)
    return none
  | some q =>
    if q.isValid then
      ofReference p q
    else
      Dialogue.log (staleLine p (some q))
      return none

/-- Read the pairs one after the other. -/
def ofPairs : List Pair → Dialogue (List (Pair × Reading))
  | [] => return []
  | p :: rest => do
    let r ← ofPair p
    let more ← ofPairs rest
    return (p, r) :: more

end Reading

/-- The prices of the pairs with a valid reference, the pairs without, and the number of books that
could not be read. -/
structure Prices where
  known : Table Pair PairPrices := {}
  stale : List Pair := []
  bookFailures : Nat := 0
deriving DecidableEq

namespace Prices

def get? (s : Prices) (p : Pair) : Option PairPrices := s.known.get? p

def ofReadings (readings : List (Pair × Reading)) : Prices where
  known := Table.ofList (readings.filterMap fun (p, r) => r.map (p, ·))
  stale := (readings.filter (·.2.isNone)).map (·.1)
  bookFailures := readings.countP fun (_, r) => r.any (·.book.isNone)

/-- Read the prices of the pairs. -/
def read (pairs : List Pair) : Dialogue Prices := ofReadings <$> Reading.ofPairs pairs

end Prices

/-- The resting orders, of which those on the managed pairs are looked at. -/
structure OpenOrders where
  managed : List Pair
  orders : List RestingOrder
deriving DecidableEq

namespace OpenOrders

/-- The orders on one side of a pair, in the order of the venue. -/
def on (s : OpenOrders) (p : Pair) (side : Side) : List RestingOrder :=
  if s.managed.contains p then
    s.orders.filter fun o => decide (o.pair = p) && decide (o.side = side)
  else
    []

def has (s : OpenOrders) (p : Pair) (side : Side) : Bool := !(s.on p side).isEmpty

def ignoredLine (o : RestingOrder) : LogLine :=
  (LogLine.debug "ignoring order on unmanaged pair").withFields
    [("pair", o.pair.text), ("id", o.id)]

/-- A line for each order on a pair that is not managed. -/
def logIgnored (managed : List Pair) : List RestingOrder → Dialogue Unit
  | [] => return
  | o :: rest => do
    unless managed.contains o.pair do
      Dialogue.log (ignoredLine o)
    logIgnored managed rest

/-- The orders as they have been read. -/
def ofOrders (managed : List Pair) (orders : List RestingOrder) : Dialogue OpenOrders := do
  logIgnored managed orders
  return { managed, orders }

/-- Read the resting orders. -/
def read (managed : List Pair) : Dialogue (Except Failure OpenOrders) := do
  match ← Dialogue.call .openOrders with
  | .error e => return .error (.venueCall "open_orders" e)
  | .ok orders => return .ok (← ofOrders managed orders)

end OpenOrders

end QuoteKeeper
