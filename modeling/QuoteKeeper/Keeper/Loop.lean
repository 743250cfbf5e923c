import QuoteKeeper.Keeper.Basic

/-!
# The run loop

The keeper serves one event at a time: ticks, fills, the end of the fills, and the signal to stop.
When it stops it stops the feed, cancels all orders if so set, and reports the totals.
-/

namespace QuoteKeeper

inductive Event where
  | tick (now : Instant)
  | fill (f : Fill)
  /-- No fill will come any more. -/
  | fillsClosed
  /-- The signal has a new value; only a true one stops the loop. -/
  | stopSignal (on : Bool)
  /-- Nobody can send the signal any more, which stops the loop too. -/
  | signalDropped
deriving DecidableEq

/-- A loop that runs, one that has ended with these totals, or one that has broken down. -/
inductive Loop where
  | running (k : Keeper) (fillsOpen : Bool)
  | ended (totals : Totals)
  | broken
deriving DecidableEq

namespace Loop

def ratiosText (r : SideRatios) : String :=
  s!"(place={r.place} dist={r.placeDistance} unprof={r.unprofitable} outbid={r.outbid})"

/-- The first line of a run. -/
def startLine (s : Settings) : LogLine :=
  .info
    (s!"🎯 Coordinator [{s.venue}] pairs={s.pairs.length} tick={s.tick.toMillis}ms "
      ++ s!"reorder={s.reorder.toSeconds}s buy" ++ ratiosText s.buy ++ " sell"
      ++ ratiosText s.sell)

/-- The beginning of a run. Without time between ticks there is no loop. -/
def start (k : Keeper) : Dialogue Loop := do
  Dialogue.log (startLine k.settings)
  return if k.settings.tick = 0 then broken else running k true

/-- The end of a run. -/
def shutdown (k : Keeper) : Dialogue Loop := do
  Dialogue.log (.info "🛑 Coordinator shutting down")
  Dialogue.stopFeed
  if k.settings.cancelAllOnShutdown then
    let _ ← Keeper.cancelAll
  Dialogue.log (.info k.totals.line)
  return ended k.totals

/-- Serve one event. Once the fills are closed no more of them is received. -/
def serve : Loop → Event → Dialogue Loop
  | ended totals, _ => return ended totals
  | broken, _ => return broken
  | running k fillsOpen, event => do
    match event with
    | .tick now =>
      let (_, k) ← k.cycle now
      return running k fillsOpen
    | .fill f =>
      if fillsOpen then
        return running (← k.fill f) fillsOpen
      else
        return running k fillsOpen
    | .fillsClosed => return running k false
    | .stopSignal true => shutdown k
    | .stopSignal false => return running k fillsOpen
    | .signalDropped => shutdown k

/-- Serve the events in order. -/
def serveAll (l : Loop) : List Event → Dialogue Loop
  | [] => return l
  | e :: rest => do serveAll (← serve l e) rest

end Loop

end QuoteKeeper
