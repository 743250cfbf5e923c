import QuoteKeeper.Clock

/-!
# Waiting between fetches

After a success the interval; after failures a base that doubles with each further failure in a row,
up to a largest wait. The factor stops growing at 32 bits.
-/

namespace QuoteKeeper

namespace Feed

structure Backoff where
  interval : Span
  base : Span
  longest : Span
deriving DecidableEq

/-- By how much the base is multiplied after that many failures in a row, at least one. -/
def factor (failures : Nat) : Nat :=
  if failures ≤ 32 then Nat.pow 2 (failures - 1) else Nat.pow 2 32 - 1

/-- The wait after that many failures in a row. -/
def Backoff.wait (b : Backoff) (failures : Nat) : Span :=
  if failures = 0 then b.interval else Nat.min (Span.times b.base (factor failures)) b.longest

end Feed

end QuoteKeeper
