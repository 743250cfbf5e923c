import QuoteKeeper.Rehearsal.Channel

/-!
# Rehearsing a run

A keeper, its rehearsal, and the channels that fills take. Before the run begins the keeper is told
what to do; from then on its loop serves ticks, fills and the signal to stop, and empties its inbox
before anything else happens. If the venue breaks down over a call of the loop, the loop is over.
All ticks are at the instant at which the keeper was made: in a rehearsed run the reorder interval
is either zero or not over.
-/

namespace QuoteKeeper

/-- Where the venue's fills go: nowhere, to a channel that nobody reads, or to the loop. -/
inductive Outlet where
  | nowhere
  | aside (channel : Channel)
  | inbox
deriving DecidableEq

structure Run where
  rehearsal : Rehearsal := {}
  keeper : Keeper
  outlet : Outlet := .nowhere
  inbox : Channel
  /-- The loop, once it has begun. -/
  loop : Option Loop := none
  /-- Fills can be sent to the inbox by hand. -/
  senderOpen : Bool := true
deriving DecidableEq

namespace Run

/-- Let a dialogue take place. -/
def converse {α : Type} (s : Run) (d : Dialogue α) : Except Overflow (α × Run) :=
  let (result, rehearsal) := s.rehearsal.converse d
  result.map fun a => (a, { s with rehearsal })

/-- Run a cycle of the keeper. -/
def cycle (s : Run) (now : Instant) : Except Overflow (CycleSummary × Run) := do
  let ((summary, keeper), s) ← s.converse (s.keeper.cycle now)
  return (summary, { s with keeper })

/-- Tell the keeper of a fill. -/
def fill (s : Run) (f : Fill) : Except Overflow Run := do
  let (keeper, s) ← s.converse (s.keeper.fill f)
  return { s with keeper }

/-! ### The loop -/

/-- The loop is there and has not ended. -/
def isLive (s : Run) : Bool :=
  match s.loop with
  | some (.running _ _) => true
  | _ => false

/-- The loop has been there and has ended. -/
def isFinished (s : Run) : Bool :=
  match s.loop with
  | some (.ended _) | some .broken => true
  | _ => false

/-- The loop becomes what a dialogue makes of it. It breaks down with its world, and once it is over
nothing is received any more. -/
def follow (s : Run) (d : Dialogue Loop) : Run :=
  let (result, rehearsal) := s.rehearsal.converse d
  let s := { s with rehearsal, loop := some (result.toOption.getD .broken) }
  if s.isFinished then { s with inbox := s.inbox.close } else s

/-- Let the loop serve some events, if it has begun. -/
def serve (s : Run) (events : List Event) : Run :=
  match s.loop with
  | none => s
  | some l => s.follow (l.serveAll events)

/-- Let the loop receive what is in its inbox. -/
def drain (s : Run) : Run :=
  if s.isLive then
    { s with inbox := { s.inbox with fills := [] } }.serve (s.inbox.fills.map .fill)
  else
    s

/-- Hand the keeper to its loop; the first tick comes at once. -/
def begin (s : Run) : Run :=
  ((s.follow (Loop.start s.keeper)).serve [.tick s.keeper.cooldown.started]).drain

def ticks (s : Run) (n : Nat) : Run :=
  s.serve (List.replicate n (.tick s.keeper.cooldown.started))

/-- Send a fill by hand; the answer tells whether it is accepted. -/
def send (s : Run) (f : Fill) : Bool × Run :=
  if s.senderOpen then
    match s.inbox.offer f with
    | .ok inbox => (true, { s with inbox }.drain)
    | .error _ => (false, s)
  else
    (false, s)

/-- Let the venue fill what the books have reached. -/
def matchOrders (s : Run) : Except Overflow (List Fill × Run) :=
  match s.outlet with
  | .nowhere => do
    let (fills, _, rehearsal) ← s.rehearsal.matchOrders none
    return (fills, { s with rehearsal })
  | .aside channel => do
    let (fills, channel', rehearsal) ← s.rehearsal.matchOrders (some channel)
    return (fills, { s with rehearsal, outlet := .aside (channel'.getD channel) })
  | .inbox => do
    let (fills, inbox, rehearsal) ← s.rehearsal.matchOrders (some s.inbox)
    return (fills, { s with rehearsal, inbox := inbox.getD s.inbox }.drain)

end Run

end QuoteKeeper
