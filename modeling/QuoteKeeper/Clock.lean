/-!
# Instants and spans

Both are whole numbers of nanoseconds, an instant counted from the start of the clock. The clock
ends, so an instant plus a span need not exist; spans saturate instead.
-/

namespace QuoteKeeper

/-- Nanoseconds since the start of the clock. -/
abbrev Instant := Nat

/-- Nanoseconds between two instants. -/
abbrev Span := Nat

namespace Span

def ofSeconds (n : Nat) : Span := n * 1000000000

def ofMillis (n : Nat) : Span := n * 1000000

def toSeconds (s : Span) : Nat := s / 1000000000

def toMillis (s : Span) : Nat := s / 1000000

/-- The longest span: 64 bits of seconds and all nanoseconds below the next one. -/
def longest : Span := (Nat.pow 2 64 - 1) * 1000000000 + 999999999

/-- A multiple, at most the longest span. -/
def times (s : Span) (factor : Nat) : Span := Nat.min (s * factor) longest

end Span

namespace Instant

/-- The last instant of the clock: 63 bits of seconds. -/
def last : Instant := (Nat.pow 2 63 - 1) * 1000000000 + 999999999

/-- The instant that much later, if the clock still runs then. -/
def after? (t : Instant) (s : Span) : Option Instant := if t + s ≤ last then some (t + s) else none

end Instant

end QuoteKeeper
