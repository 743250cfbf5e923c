import QuoteKeeper.Keeper.Cycle

/-!
# The keeper

Settings, action times, the number of cycles and the totals, kept from cycle to cycle. A notice is
sent for every fill and for every cycle that acted; a notice that is not delivered is only logged.
-/

namespace QuoteKeeper

structure Keeper where
  settings : Settings
  cooldown : Cooldown
  cycles : Nat := 0
  totals : Totals := {}
deriving DecidableEq

namespace Keeper

def start (settings : Settings) (now : Instant) : Keeper :=
  { settings, cooldown := Cooldown.start now }

/-- Send a notice; `what` begins the line for one that is not delivered. -/
def send (notice : Notice) (what : String) : Dialogue Unit := do
  match ← Dialogue.notify notice with
  | .ok () => return
  | .error e => Dialogue.log (.warn ("⚠️ " ++ what ++ " failed: " ++ e.text))

/-- The end of a cycle: its line, and a notice if it acted. -/
def report (venue : String) (s : CycleSummary) : Dialogue Unit := do
  Dialogue.log (.info s.line)
  if s.acted then
    send (.cycle venue s) "Notification"

/-- The keeper after a cycle. -/
def after (k : Keeper) (s : Progress) : Keeper :=
  { k with
    cooldown := s.cooldown
    cycles := k.cycles + 1
    totals := k.totals.absorb s.summary }

/-- Run one cycle at the time `now`. -/
def cycle (k : Keeper) (now : Instant) : Dialogue (CycleSummary × Keeper) := do
  let s ← Progress.ofCycle k.settings (k.cycles + 1) k.cooldown now
  report k.settings.venue s.summary
  return (s.summary, k.after s)

def fillLine (venue : String) (f : Fill) : LogLine :=
  (LogLine.info s!"💰 {f.side} {f.amount} {f.pair} {venue} at {f.price}").withFields
    [("pair", f.pair.text), ("side", f.side.text), ("order_id", f.id)]

/-- Take note of a fill. -/
def fill (k : Keeper) (f : Fill) : Dialogue Keeper := do
  Dialogue.log (fillLine k.settings.venue f)
  send (.fill k.settings.venue f) "Fill notification"
  return { k with totals := { k.totals with fills := k.totals.fills + 1 } }

/-- Cancel one after the other; the number of calls that went through. -/
def cancelEach : List RestingOrder → Dialogue Nat
  | [] => return 0
  | o :: rest => do
    let r ← Batch.cancel o .shutdown
    let canceled ← cancelEach rest
    return match r with
      | .ok () => canceled + 1
      | .error _ => canceled

/-- Cancel all resting orders, whatever their pair; the number of calls that went through. -/
def cancelAll : Dialogue Nat := do
  match ← Dialogue.call .openOrders with
  | .error e =>
    Dialogue.log (.warn ("❌ CancelAll: could not list open orders: " ++ e.text))
    return 0
  | .ok orders =>
    Dialogue.log (.info s!"🗑️ CancelAll: {orders.length} orders")
    let canceled ← cancelEach orders
    if canceled = orders.length then
      Dialogue.log (.info "✅ All orders canceled")
    else
      let left := orders.length - canceled
      Dialogue.log (.warn s!"⚠️ CancelAll completed with {left} order(s) still open")
    return canceled

end Keeper

end QuoteKeeper
