import QuoteKeeper.Json.Basic

/-!
# Cycle summaries

What a cycle did, and why a pair or a side got no order in it.
-/

namespace QuoteKeeper

/-- Why an order is canceled: it is past the reference, it is left behind by the book, or the keeper
stops. -/
inductive CancelReason where
  | unprofitable
  | outbid
  | shutdown
deriving DecidableEq

def CancelReason.text : CancelReason → String
  | unprofitable => "unprofitable"
  | outbid => "outbid"
  | shutdown => "shutdown"

/-- A counter would need more than 64 bits. -/
inductive CounterOverflow where
  | overflow
deriving DecidableEq

def CounterOverflow.message : CounterOverflow → String
  | overflow => "attempt to add with overflow"

/-- A sum as a counter holds it. -/
def counted (n : Nat) : Except CounterOverflow Nat :=
  if n < Nat.pow 2 64 then .ok n else .error .overflow

/-- Reasons for which a pair, or one side of it, gets no order. -/
structure SkipCounts where
  /-- Another pair had its turn in this cycle. -/
  count : Nat := 0
  /-- The pair is within its reorder interval. -/
  time : Nat := 0
  /-- The price is too far from the book. -/
  distance : Nat := 0
  balance : Nat := 0
  staleReference : Nat := 0
  invalidPrice : Nat := 0
  bookUnavailable : Nat := 0
  excluded : Nat := 0
  noTargetSize : Nat := 0
deriving DecidableEq

namespace SkipCounts

def add (a b : SkipCounts) : SkipCounts where
  count := a.count + b.count
  time := a.time + b.time
  distance := a.distance + b.distance
  balance := a.balance + b.balance
  staleReference := a.staleReference + b.staleReference
  invalidPrice := a.invalidPrice + b.invalidPrice
  bookUnavailable := a.bookUnavailable + b.bookUnavailable
  excluded := a.excluded + b.excluded
  noTargetSize := a.noTargetSize + b.noTargetSize

instance : Add SkipCounts := ⟨add⟩

/-- Names and values, as they stand in JSON. -/
def named (s : SkipCounts) : List (String × Nat) :=
  [("count", s.count), ("time", s.time), ("distance", s.distance), ("balance", s.balance),
    ("stale_reference", s.staleReference), ("invalid_price", s.invalidPrice),
    ("book_unavailable", s.bookUnavailable), ("excluded", s.excluded),
    ("no_target_size", s.noTargetSize)]

/-- A sum of counts, all of them as counters hold them. -/
def counted (s : SkipCounts) : Except CounterOverflow SkipCounts :=
  if s.named.all fun e => decide (e.2 < Nat.pow 2 64) then .ok s else .error .overflow

def json (s : SkipCounts) : Json.Value :=
  .object (s.named.map fun e => (e.1, .natural e.2))

/-- As it stands in log lines. -/
def text (s : SkipCounts) : String :=
  s!"skip(count={s.count} time={s.time} distance={s.distance} balance={s.balance} "
    ++ s!"stale={s.staleReference} invalid={s.invalidPrice} book={s.bookUnavailable} "
    ++ s!"excluded={s.excluded} no_target={s.noTargetSize})"

end SkipCounts

/-- How a cycle ended. -/
inductive Outcome where
  /-- The feed was not running; it was started and nothing else was done. -/
  | feedStarting
  /-- The resting orders could not be read. -/
  | aborted (detail : String)
  /-- Orders were to be canceled; nothing was placed. -/
  | blocked (reason : CancelReason)
  | completed
deriving DecidableEq

namespace Outcome

def json : Outcome → Json.Value
  | feedStarting => .object [("kind", .string "feed_starting")]
  | aborted detail => .object [("kind", .string "aborted"), ("detail", .string detail)]
  | blocked reason => .object [("kind", .string "blocked"), ("detail", .string reason.text)]
  | completed => .object [("kind", .string "completed")]

/-- A quotation in a log line. -/
def quote (s : String) : String :=
  let escaped := s.toList.flatMap fun c =>
    if c = '"' then ['\\', '"'] else if c = '\\' then ['\\', '\\']
    else if c = '\n' then ['\\', 'n'] else if c = '\r' then ['\\', 'r']
    else if c = '\t' then ['\\', 't'] else [c]
  "\"" ++ String.ofList escaped ++ "\""

/-- As it stands in log lines. -/
def text : Outcome → String
  | feedStarting => "FeedStarting"
  | aborted detail => "Aborted(" ++ quote detail ++ ")"
  | blocked .unprofitable => "Blocked(Unprofitable)"
  | blocked .outbid => "Blocked(Outbid)"
  | blocked .shutdown => "Blocked(Shutdown)"
  | completed => "Completed"

end Outcome

structure CycleSummary where
  cycle : Nat
  outcome : Outcome := .completed
  cancelsUnprofitable : Nat := 0
  cancelsOutbid : Nat := 0
  cancelFailures : Nat := 0
  proposals : Nat := 0
  ordersPlaced : Nat := 0
  placeFailures : Nat := 0
  budgetRejected : Nat := 0
  externalFailures : Nat := 0
  skips : SkipCounts := {}
deriving DecidableEq

namespace CycleSummary

/-- Cancel calls made, whether or not they went through. -/
def cancels (s : CycleSummary) : Nat := s.cancelsUnprofitable + s.cancelsOutbid

/-- Cancel calls and orders placed. -/
def actions (s : CycleSummary) : Nat := s.cancels + s.ordersPlaced

/-- Something was sent to the venue that changes orders. -/
def acted (s : CycleSummary) : Bool :=
  decide (0 < s.actions) || decide (0 < s.cancelFailures) || decide (0 < s.placeFailures)

def json (s : CycleSummary) : Json.Value :=
  .object
    [("cycle", .natural s.cycle), ("outcome", s.outcome.json),
      ("cancels_unprofitable", .natural s.cancelsUnprofitable),
      ("cancels_outbid", .natural s.cancelsOutbid), ("cancel_failures", .natural s.cancelFailures),
      ("proposals", .natural s.proposals), ("orders_placed", .natural s.ordersPlaced),
      ("place_failures", .natural s.placeFailures), ("budget_rejected", .natural s.budgetRejected),
      ("external_failures", .natural s.externalFailures), ("skips", s.skips.json)]

/-- The line that a cycle ends with. -/
def line (s : CycleSummary) : String :=
  "🔁 Cycle " ++ toString s.cycle ++ " " ++ s.outcome.text
    ++ s!" | cancel(unprof={s.cancelsUnprofitable} outbid={s.cancelsOutbid} "
    ++ s!"failed={s.cancelFailures}) proposals={s.proposals} placed={s.ordersPlaced} "
    ++ s!"place_failed={s.placeFailures} budget_rejected={s.budgetRejected} "
    ++ s!"ext_failures={s.externalFailures} " ++ s.skips.text

end CycleSummary

end QuoteKeeper
