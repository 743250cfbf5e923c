import QuoteKeeper.Clock
import QuoteKeeper.Market.Pair
import QuoteKeeper.Table

/-!
# Action times

When an order was last proposed, and last canceled, on each pair. A pair on which none was proposed
counts from the start of the keeper, so that nothing is proposed before the first interval is over.
-/

namespace QuoteKeeper

structure Cooldown where
  started : Instant
  canceled : Table Pair Instant := {}
  ordered : Table Pair Instant := {}
deriving DecidableEq

namespace Cooldown

def start (now : Instant) : Cooldown := { started := now }

def recordCancel (c : Cooldown) (p : Pair) (now : Instant) : Cooldown :=
  { c with canceled := c.canceled.set p now }

def recordOrder (c : Cooldown) (p : Pair) (now : Instant) : Cooldown :=
  { c with ordered := c.ordered.set p now }

def lastCancel? (c : Cooldown) (p : Pair) : Option Instant := c.canceled.get? p

def lastOrder (c : Cooldown) (p : Pair) : Instant := (c.ordered.get? p).getD c.started

/-- The interval since the last order is not over; it never is if the clock ends before. -/
def waits (c : Cooldown) (p : Pair) (now : Instant) (interval : Span) : Bool :=
  match (c.lastOrder p).after? interval with
  | some ready => decide (now < ready)
  | none => true

end Cooldown

end QuoteKeeper
