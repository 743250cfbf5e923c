import QuoteKeeper.Rehearsal.Basic

/-!
# Fills on their way

The venue offers every fill to a channel of limited room, in order and without waiting. A fill that
does not fit, or that nobody can receive any more, is dropped with a log line; the venue has filled
the order all the same.
-/

namespace QuoteKeeper

/-- A channel with its fills, first in first out. -/
structure Channel where
  room : Nat
  isClosed : Bool := false
  fills : List Fill := []
deriving DecidableEq

/-- Why there is no channel with some room. -/
inductive RoomFault where
  | noRoom
  | tooMuchRoom
deriving DecidableEq

/-- No channel has more room than this. -/
def mostRoom : Nat := 2305843009213693951

def RoomFault.message : RoomFault → String
  | noRoom => "mpsc bounded channel requires buffer > 0"
  | tooMuchRoom => s!"a semaphore may not have more than MAX_PERMITS permits ({mostRoom})"

namespace Channel

/-- An empty channel. -/
def ofRoom (room : Nat) : Except RoomFault Channel :=
  if room = 0 then .error .noRoom
  else if mostRoom < room then .error .tooMuchRoom
  else .ok { room }

/-- Why a fill is dropped. -/
inductive Refusal where
  | closed
  | full
deriving DecidableEq

def Refusal.text : Refusal → String
  | closed => "channel closed"
  | full => "no available capacity"

def offer (c : Channel) (f : Fill) : Except Refusal Channel :=
  if c.isClosed then .error .closed
  else if c.fills.length < c.room then .ok { c with fills := c.fills ++ [f] }
  else .error .full

def droppedLine (f : Fill) (why : Refusal) : LogLine :=
  .warn (s!"⚠️ Paper fill {f.id} not delivered: " ++ why.text)

/-- Offer fills in order; a line for each one dropped. -/
def offerAll (c : Channel) : List Fill → Channel × List LogLine
  | [] => (c, [])
  | f :: rest =>
    match c.offer f with
    | .ok c => c.offerAll rest
    | .error why =>
      let (c, lines) := c.offerAll rest
      (c, droppedLine f why :: lines)

/-- Nothing is received any more. -/
def close (c : Channel) : Channel := { c with isClosed := true, fills := [] }

end Channel

namespace Rehearsal

/-- Fill what the books have reached, and offer the fills to the channel if there is one. -/
def matchOrders (r : Rehearsal) (channel : Option Channel) :
    Except Overflow (List Fill × Option Channel × Rehearsal) := do
  let (fills, venue) ← r.venue.fillCrossed
  let r := { r with venue }
  match channel with
  | none => return (fills, none, r)
  | some c =>
    let (c, lines) := c.offerAll fills
    return (fills, some c, r.write lines)

end Rehearsal

end QuoteKeeper
