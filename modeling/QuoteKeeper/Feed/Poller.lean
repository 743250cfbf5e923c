import QuoteKeeper.Feed.Backoff
import QuoteKeeper.Feed.Payload

/-!
# Polling the feed

A poller keeps the book of the last good answer and counts the failures since then. A good answer
replaces the book and ends the count; a failure leaves the book alone. The count, which stops at the
largest number of 32 bits, decides how long the poller waits for its next fetch.
-/

namespace QuoteKeeper

namespace Feed

/-- What a fetch brings: a book, with the lines that reading it wrote, or a failure. -/
abbrev Fetched := Except Failure (ReferenceBook × List LogLine)

/-- No more failures in a row than this are counted. -/
def mostFailures : Nat := Nat.pow 2 32 - 1

structure Poller where
  backoff : Backoff
  book : ReferenceBook := {}
  /-- Failures in a row, up to now. -/
  failures : Nat := 0

namespace Poller

/-- The wait before the next fetch. -/
def wait (p : Poller) : Span := p.backoff.wait p.failures

/-- The poller after a fetch. -/
def receive (p : Poller) : Fetched → Poller
  | .ok (book, _) => { p with book, failures := 0 }
  | .error _ => { p with failures := Nat.min (p.failures + 1) mostFailures }

/-- The line that says that a good answer ended some failures. -/
def recovery (failures : Nat) : List LogLine :=
  if failures = 0 then []
  else [.info s!"📡 Reference feed recovered after {failures} failure(s)"]

/-- A wait as the log has it, in 64 bits of milliseconds. -/
def waitText (s : Span) : String := toString (Span.toMillis s % Nat.pow 2 64)

/-- What the log says about a fetch. -/
def report (p : Poller) (fetched : Fetched) : List LogLine :=
  match fetched with
  | .ok (book, lines) =>
    lines ++ recovery p.failures
      ++ [(LogLine.debug "reference feed updated").withFields [("pairs", toString book.size)]]
  | .error e =>
    let after := p.receive fetched
    [(LogLine.warn ("⚠️ Reference feed: " ++ e.message ++ " (keeping last value)")).withFields
      [("failures", toString after.failures), ("retry_in_ms", waitText after.wait)]]

/-- A poller that begins anew with the book it has. -/
def restart (p : Poller) : Poller := { p with failures := 0 }

/-- What the log says when polling begins. -/
def startLine (p : Poller) : LogLine :=
  let interval := Span.toMillis p.backoff.interval
  let longest := Span.toMillis p.backoff.longest
  .info s!"📡 Reference feed started | interval={interval}ms retry_max={longest}ms"

/-- What the log says when polling is stopped. -/
def stopLine : LogLine := .info "📡 Reference feed stopped"

end Poller

end Feed

end QuoteKeeper
