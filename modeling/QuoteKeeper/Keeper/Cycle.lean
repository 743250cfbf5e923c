import QuoteKeeper.Cycle.Batch
import QuoteKeeper.Cycle.Phase
import QuoteKeeper.Cycle.Proposal
import QuoteKeeper.Keeper.Totals

/-!
# One cycle

Prices and resting orders are read once; then the phases run until one of them acts. At most one
pair gets new orders. A failed call never ends the cycle, except that of the resting orders.
-/

namespace QuoteKeeper

/-- What a cycle has come to: its summary so far, and the action times. -/
structure Progress where
  summary : CycleSummary
  cooldown : Cooldown
deriving DecidableEq

namespace Progress

/-- Count the cancel calls of a phase. -/
def countCancels (summary : CycleSummary) (reason : CancelReason) (calls : Nat) : CycleSummary :=
  match reason with
  | .unprofitable => { summary with cancelsUnprofitable := summary.cancelsUnprofitable + calls }
  | .outbid => { summary with cancelsOutbid := summary.cancelsOutbid + calls }
  | .shutdown => summary

/-- Carry out a cancel plan; every call counts as an action, also one that fails. -/
def cancelPhase (reason : CancelReason) (plan : CancelPlan) (now : Instant) (s : Progress) :
    Dialogue (Nat × Progress) := do
  CancelPlan.logUnjudged plan.unjudged
  let failed ← Batch.withdrawAll plan.withdrawals
  let calls := plan.withdrawals.length
  let skips := s.summary.skips + { invalidPrice := plan.unjudged.length }
  let summary := countCancels s.summary reason calls
  return (calls,
    { summary := { summary with skips, cancelFailures := summary.cancelFailures + failed }
      cooldown :=
        plan.withdrawals.foldl (fun c w => c.recordCancel w.order.pair now) s.cooldown })

/-- What a pass over the pairs has come to. -/
structure Pass where
  skips : SkipCounts := {}
  failures : Nat := 0
  batch : List Candidate := []
  cooldown : Cooldown

/-- Go through the pairs with a valid reference up to the first one that has candidates; each one
after it is put off. -/
def propose (settings : Settings) (prices : Prices) (orders : OpenOrders) (now : Instant) :
    List Pair → Cooldown → Dialogue Pass
  | [], cooldown => return { cooldown }
  | p :: rest, cooldown =>
    match prices.get? p with
    | none => propose settings prices orders now rest cooldown
    | some pairPrices => do
      let o ← Proposal.outcome settings p pairPrices orders cooldown now
      let cooldown := Proposal.stamp cooldown p now o
      if o.candidates.isEmpty then
        let pass ← propose settings prices orders now rest cooldown
        return { pass with skips := o.skips + pass.skips, failures := o.failures + pass.failures }
      else
        let putOff := rest.countP fun q => (prices.get? q).isSome
        return {
          skips := o.skips + { count := putOff }
          failures := o.failures
          batch := o.candidates
          cooldown }

/-- Propose, and place what is proposed. -/
def proposePhase (settings : Settings) (prices : Prices) (orders : OpenOrders) (now : Instant)
    (s : Progress) : Dialogue Progress := do
  let pass ← propose settings prices orders now settings.pairs s.cooldown
  let result ← Batch.place pass.batch
  return {
    summary :=
      { s.summary with
        skips := s.summary.skips + pass.skips
        proposals := pass.batch.length
        ordersPlaced := result.placed.length
        placeFailures := result.failed
        budgetRejected := result.budgetRejected
        externalFailures :=
          s.summary.externalFailures + pass.failures + result.externalFailures }
    cooldown := pass.cooldown }

/-- One phase, and how often it acted on resting orders. -/
def phase (settings : Settings) (prices : Prices) (orders : OpenOrders) (now : Instant) (p : Phase)
    (s : Progress) : Dialogue (Nat × Progress) :=
  match p with
  | .cancelUnprofitable =>
    cancelPhase .unprofitable (CancelPlan.unprofitable settings prices orders) now s
  | .cancelOutbid => cancelPhase .outbid (CancelPlan.outbid settings prices orders) now s
  | .propose => do
    let s ← proposePhase settings prices orders now s
    return (0, s)
  | .blocked _ | .done => return (0, s)

/-- The phases from `p` on. -/
def phasesFrom (settings : Settings) (prices : Prices) (orders : OpenOrders) (now : Instant)
    (p : Phase) (s : Progress) : Dialogue (Phase × Progress) :=
  if _ended : p.isTerminal = true then
    return (p, s)
  else do
    let (actions, s) ← phase settings prices orders now p s
    phasesFrom settings prices orders now (p.advance actions) s
termination_by p.rank
decreasing_by exact Phase.rank_advance_lt p _ (Bool.eq_false_iff.mpr _ended)

/-- How the cycle ends, given its last phase. -/
def conclude (p : Phase) (s : Progress) : Dialogue Progress := do
  match p with
  | .blocked reason =>
    Dialogue.log
      (.debug (s!"⛔ Cycle {s.summary.cycle} blocked after " ++ reason.text ++ " cancels"))
    return { s with summary := { s.summary with outcome := .blocked reason } }
  | _ => return { s with summary := { s.summary with outcome := .completed } }

/-- The summary once everything is read. -/
def opening (cycle : Nat) (prices : Prices) : CycleSummary where
  cycle
  externalFailures := prices.bookFailures
  skips := { staleReference := prices.stale.length }

/-- A cycle whose resting orders could be read. -/
def withOrders (settings : Settings) (cycle : Nat) (cooldown : Cooldown) (now : Instant)
    (orders : OpenOrders) : Dialogue Progress := do
  let prices ← Prices.read settings.pairs
  let (p, s) ←
    phasesFrom settings prices orders now .cancelUnprofitable
      { summary := opening cycle prices, cooldown }
  conclude p s

/-- A cycle with a running feed. -/
def withFeed (settings : Settings) (cycle : Nat) (cooldown : Cooldown) (now : Instant) :
    Dialogue Progress := do
  match ← OpenOrders.read settings.pairs with
  | .error e =>
    Dialogue.log (.warn (s!"⚠️ Cycle {cycle} aborted: " ++ e.message))
    return { summary := { cycle, outcome := .aborted e.message, externalFailures := 1 }, cooldown }
  | .ok orders => withOrders settings cycle cooldown now orders

/-- The cycle with this number at the time `now`. If the feed is not running it is started, and
nothing else is done. -/
def ofCycle (settings : Settings) (cycle : Nat) (cooldown : Cooldown) (now : Instant) :
    Dialogue Progress := do
  if ← Dialogue.feedRunning then
    withFeed settings cycle cooldown now
  else
    Dialogue.startFeed
    Dialogue.log (.info s!"📡 Price feed not running; started it, skipping cycle {cycle}")
    return { summary := { cycle, outcome := .feedStarting }, cooldown }

end Progress

end QuoteKeeper
