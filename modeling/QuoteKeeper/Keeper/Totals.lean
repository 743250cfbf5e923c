import QuoteKeeper.Cycle.Summary

/-!
# Totals

Sums over the summaries of all cycles so far, and the number of fills.
-/

namespace QuoteKeeper

structure Totals where
  cycles : Nat := 0
  blockedUnprofitable : Nat := 0
  blockedOutbid : Nat := 0
  aborted : Nat := 0
  cancelsUnprofitable : Nat := 0
  cancelsOutbid : Nat := 0
  cancelFailures : Nat := 0
  placed : Nat := 0
  placeFailures : Nat := 0
  budgetRejected : Nat := 0
  fills : Nat := 0
  skips : SkipCounts := {}
deriving DecidableEq

namespace Totals

/-- Count how a cycle ended. -/
def countOutcome (t : Totals) : Outcome → Totals
  | .blocked .unprofitable => { t with blockedUnprofitable := t.blockedUnprofitable + 1 }
  | .blocked .outbid => { t with blockedOutbid := t.blockedOutbid + 1 }
  | .aborted _ => { t with aborted := t.aborted + 1 }
  | .blocked .shutdown | .feedStarting | .completed => t

/-- The totals with one more cycle. -/
def absorb (t : Totals) (s : CycleSummary) : Totals :=
  let t := t.countOutcome s.outcome
  { t with
    cycles := t.cycles + 1
    cancelsUnprofitable := t.cancelsUnprofitable + s.cancelsUnprofitable
    cancelsOutbid := t.cancelsOutbid + s.cancelsOutbid
    cancelFailures := t.cancelFailures + s.cancelFailures
    placed := t.placed + s.ordersPlaced
    placeFailures := t.placeFailures + s.placeFailures
    budgetRejected := t.budgetRejected + s.budgetRejected
    skips := t.skips + s.skips }

/-- The last line of a run. -/
def line (t : Totals) : String :=
  s!"🎯 Shutdown | cycles={t.cycles} blocked(unprof={t.blockedUnprofitable} "
    ++ s!"outbid={t.blockedOutbid}) aborted={t.aborted} "
    ++ s!"cancel(unprof={t.cancelsUnprofitable} outbid={t.cancelsOutbid} "
    ++ s!"failed={t.cancelFailures}) placed={t.placed} place_failed={t.placeFailures} "
    ++ s!"budget_rejected={t.budgetRejected} fills={t.fills} " ++ t.skips.text

/-- The counters of the last line, each with the label that it stands after. -/
def labelled (t : Totals) : List (String × Nat) :=
  [("🎯 Shutdown | cycles=", t.cycles), (" blocked(unprof=", t.blockedUnprofitable),
    (" outbid=", t.blockedOutbid), (") aborted=", t.aborted),
    (" cancel(unprof=", t.cancelsUnprofitable), (" outbid=", t.cancelsOutbid),
    (" failed=", t.cancelFailures), (") placed=", t.placed), (" place_failed=", t.placeFailures),
    (" budget_rejected=", t.budgetRejected), (" fills=", t.fills),
    (" skip(count=", t.skips.count), (" time=", t.skips.time), (" distance=", t.skips.distance),
    (" balance=", t.skips.balance), (" stale=", t.skips.staleReference),
    (" invalid=", t.skips.invalidPrice), (" book=", t.skips.bookUnavailable),
    (" excluded=", t.skips.excluded), (" no_target=", t.skips.noTargetSize)]

/-- The last line is its labels, with the counter of each after it. -/
theorem line_eq (t : Totals) : t.line =
    String.join (t.labelled.map fun counter => counter.1 ++ toString counter.2) ++ ")" := by
  -- Some labels stand after a space that ends the part of the line before them.
  have apart :
      [" outbid=", " cancel(unprof=", " failed=", " budget_rejected=", " skip(count=", " stale=",
        " excluded="] =
      ["outbid=", "cancel(unprof=", "failed=", "budget_rejected=", "skip(count=", "stale=",
        "excluded="].map (" " ++ ·) := by
    decide +kernel
  simp only [List.map_cons, List.map_nil, List.cons.injEq] at apart
  delta line labelled SkipCounts.text
  simp only [String.join, List.map_cons, List.map_nil, List.foldl_cons, List.foldl_nil,
    String.append_assoc, apart, String.empty_append]
  rfl

end Totals

end QuoteKeeper
