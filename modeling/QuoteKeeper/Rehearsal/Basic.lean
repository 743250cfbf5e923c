import QuoteKeeper.Keeper.Loop
import QuoteKeeper.Venue.Paper

/-!
# Rehearsals

A world in which a keeper can be tried out: a paper venue, a feed whose book is set by hand, and a
sink that keeps the notices it gets. Calls, notices and log lines are written down. Faults come from
a script: the n-th call of a kind can fail before it reaches the venue, budget answers can be cut
short, and the sink can fail.
-/

namespace QuoteKeeper

/-- A feed that is set by hand, and how often it was asked, started and stopped. -/
structure HandFeed where
  book : ReferenceBook := {}
  running : Bool := true
  asked : Nat := 0
  starts : Nat := 0
  stops : Nat := 0
deriving DecidableEq

/-- What has been written down, in order. -/
structure Minutes where
  calls : List Call := []
  notices : List Notice := []
  lines : List LogLine := []
deriving DecidableEq

structure Rehearsal where
  venue : Paper := {}
  feed : HandFeed := {}
  /-- By kind of call, how many calls from now on the next scripted failure is due, from one. -/
  script : Table CallKind Nat := {}
  /-- How many candidates are cut off every budget answer. -/
  cut : Nat := 0
  sinkFails : Bool := false
  minutes : Minutes := {}
deriving DecidableEq

namespace Rehearsal

def write (r : Rehearsal) (lines : List LogLine) : Rehearsal :=
  { r with minutes := { r.minutes with lines := r.minutes.lines ++ lines } }

/-- Count a call down; it fails if its turn has come. -/
def countDown (r : Rehearsal) (kind : CallKind) : Bool × Rehearsal :=
  match r.script.get? kind with
  | none => (false, r)
  | some 1 => (true, { r with script := r.script.erase kind })
  | some n => (false, { r with script := r.script.set kind (n - 1) })

/-- The failure of a call by script. -/
def scripted (kind : CallKind) : CallError :=
  { root := "timeout", contexts := ["scripted " ++ kind.name] }

/-- An answer to a budget call, cut short. -/
def cutShort (n : Nat) : (c : Call) → c.Reply → c.Reply
  | .budgetAdjust _ _, reply => reply.map fun accepted => accepted.take (accepted.length - n)
  | .topOfBook _ _, reply => reply
  | .openOrders, reply => reply
  | .balance _, reply => reply
  | .cancel _ _, reply => reply
  | .place _, reply => reply

/-- A call is written down, then fails by script or is answered by the venue. -/
def call (r : Rehearsal) (c : Call) : Except Overflow c.Reply × Rehearsal :=
  let r := { r with minutes := { r.minutes with calls := r.minutes.calls ++ [c] } }
  let (fails, r) := r.countDown c.kind
  if fails then
    (.ok (.error (scripted c.kind)), r)
  else
    match r.venue.answer c with
    | .error e => (.error e, r)
    | .ok answered =>
      (.ok (cutShort r.cut c answered.reply),
        { r with venue := answered.venue }.write answered.lines)

/-- A notice is written down, whether or not the sink then fails. -/
def notify (r : Rehearsal) (n : Notice) : Except CallError Unit × Rehearsal :=
  let r := { r with minutes := { r.minutes with notices := r.minutes.notices ++ [n] } }
  (if r.sinkFails then .error { root := "sink offline", contexts := ["deliver"] } else .ok (), r)

/-- Only calls to the venue can break down. -/
def world : World Rehearsal
  | .call c, r => r.call c
  | .notify n, r => ((r.notify n).1 |> .ok, (r.notify n).2)
  | .feedRunning, r => (.ok r.feed.running, { r with feed.asked := r.feed.asked + 1 })
  | .startFeed, r =>
    (.ok (), { r with feed.running := true, feed.starts := r.feed.starts + 1 })
  | .stopFeed, r => (.ok (), { r with feed.running := false, feed.stops := r.feed.stops + 1 })
  | .reference p, r => (.ok (r.feed.book.get? p), r)
  | .log line, r => (.ok (), r.write [line])

/-- Let a dialogue take place in the rehearsal. -/
def converse {α : Type} (r : Rehearsal) (d : Dialogue α) : Except Overflow α × Rehearsal :=
  d.run world r

/-- The minutes so far, and the rehearsal with new ones. -/
def turnPage (r : Rehearsal) : Minutes × Rehearsal := (r.minutes, { r with minutes := {} })

/-- Rest an order at the venue, whatever the balances. -/
def seed (r : Rehearsal) (c : Candidate) : OrderId × Rehearsal :=
  let (id, venue) := r.venue.rest c
  (id, { r with venue })

end Rehearsal

end QuoteKeeper
