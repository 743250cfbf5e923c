import QuoteKeeper.Proofs.Loop.Ending
import QuoteKeeper.Proofs.Rehearsal.Serving

/-!
# A run from its beginning to its end

Whatever the order of its events and whatever comes back: a run consists of the events before the
one that stops it and of its end. Each tick is a cycle, each fill that is received is told of, and
the last line says what all cycles add up to. The notices fare as they may, which makes no
difference to anything else.
-/

namespace QuoteKeeper

open Dialogue

def Outcome.isAborted : Outcome → Bool
  | aborted _ => true
  | feedStarting | blocked _ | completed => false

namespace Totals

/-- What the summaries of all cycles add up to, with the number of fills. -/
def overall (summaries : List CycleSummary) (fills : Nat) : Totals :=
  let sum (field : CycleSummary → Nat) : Nat := (summaries.map field).sum
  { cycles := summaries.length
    blockedUnprofitable := summaries.countP fun s => decide (s.outcome = .blocked .unprofitable)
    blockedOutbid := summaries.countP fun s => decide (s.outcome = .blocked .outbid)
    aborted := summaries.countP (·.outcome.isAborted)
    cancelsUnprofitable := sum (·.cancelsUnprofitable)
    cancelsOutbid := sum (·.cancelsOutbid)
    cancelFailures := sum (·.cancelFailures)
    placed := sum (·.ordersPlaced)
    placeFailures := sum (·.placeFailures)
    budgetRejected := sum (·.budgetRejected)
    fills
    skips :=
      { count := sum (·.skips.count)
        time := sum (·.skips.time)
        distance := sum (·.skips.distance)
        balance := sum (·.skips.balance)
        staleReference := sum (·.skips.staleReference)
        invalidPrice := sum (·.skips.invalidPrice)
        bookUnavailable := sum (·.skips.bookUnavailable)
        excluded := sum (·.skips.excluded)
        noTargetSize := sum (·.skips.noTargetSize) } }

/-- One more cycle is one more summary to add. -/
theorem absorb_overall (summaries : List CycleSummary) (fills : Nat) (s : CycleSummary) :
    (overall summaries fills).absorb s = overall (summaries ++ [s]) fills := by
  have skips : ∀ a b : SkipCounts, a + b = a.add b := fun _ _ => rfl
  rw [absorb]
  cases outcome : s.outcome with
  | feedStarting | aborted | completed =>
    simp [overall, countOutcome, outcome, Outcome.isAborted, skips, SkipCounts.add]
  | blocked reason =>
    cases reason with
    | unprofitable | outbid | shutdown =>
      simp [overall, countOutcome, outcome, Outcome.isAborted, skips, SkipCounts.add]

end Totals

namespace Loop

variable {k k' : Keeper} {fillsOpen : Bool} {events : List Event} {t : Transcript}
  {cycles : List (CycleSummary × Cooldown)}

theorem Served.totals (served : Served k fillsOpen events t cycles k')
    {summaries : List CycleSummary} {fills : Nat}
    (begun : k.totals = Totals.overall summaries fills) :
    k'.totals = Totals.overall (summaries ++ cycles.map (·.1))
      (fills + (Event.received fillsOpen events).length) := by
  induction served generalizing summaries fills with
  | nil => rw [List.map_nil, List.append_nil, begun]; rfl
  | tick path later ih =>
    have moved := (Keeper.cycle_moves path).2.2.2.1
    rw [begun, Totals.absorb_overall] at moved
    rw [ih moved, List.map_cons, List.append_assoc]
    rfl
  | @fill k k₁ k' f events t u cycles path later ih =>
    have filled : k₁.totals = Totals.overall summaries (fills + 1) := by
      rw [(Keeper.fill_moves path).1, begun]
      rfl
    rw [ih filled, Nat.add_assoc, Nat.add_comm 1]
    rfl
  | unheard later ih | lull later ih => exact ih begun
  | closed later ih =>
    rw [ih begun, Event.received]

/-- How a run can go until it is stopped, and what it does about resting orders at its end. -/
structure Ran (k : Keeper) (before : List Event) (cycles : List (CycleSummary × Cooldown))
    (k' : Keeper) (serving canceling : Transcript) : Prop where
  served : Served k true before serving cycles k'
  cancels : Cancels k' canceling

/-- All of a run. -/
def whole (k k' : Keeper) (serving canceling : Transcript) : Transcript :=
  ⟨.log (startLine k.settings), ()⟩ :: (serving ++ ending k' canceling)

/-- The totals are the last that a run says. -/
theorem whole_last (k k' : Keeper) (serving canceling : Transcript) :
    (whole k k' serving canceling).getLast? = some ⟨.log (.info k'.totals.line), ()⟩ := by
  have split : whole k k' serving canceling =
      (⟨.log (startLine k.settings), ()⟩ :: (serving ++
        ⟨.log (.info "🛑 Coordinator shutting down"), ()⟩ :: ⟨.stopFeed, ()⟩ :: canceling)) ++
          [⟨.log (.info k'.totals.line), ()⟩] := by
    simp [whole, ending]
  rw [split, List.getLast?_concat]

/-- A run that is stopped goes so. -/
theorem run_ran {before after : List Event} {stop : Event} {l : Loop}
    (ticking : k.settings.tick ≠ 0) (going : ∀ e ∈ before, e.stops = false)
    (stops : stop.stops = true)
    (path : Path (start k >>= (·.serveAll (before ++ stop :: after))) t l) :
    ∃ cycles k' serving canceling, Ran k before cycles k' serving canceling ∧
      t = whole k k' serving canceling ∧ l = .ended k'.totals := by
  obtain ⟨first, m, rest, rfl, starts, goesOn⟩ := path_bind_iff.mp path
  obtain ⟨last, rfl, begins⟩ := path_log_iff.mp starts
  obtain ⟨rfl, rfl⟩ := path_pure_iff.mp begins
  rw [if_neg ticking] at goesOn
  obtain ⟨serving, cycles, k', stillOpen, final, rfl, served, ends⟩ := serveAll_served going goesOn
  obtain ⟨here, m, more, rfl, serves, nothing⟩ := path_bind_iff.mp ends
  have shut : Path (shutdown k') here m := by
    cases stop with
    | stopSignal on =>
      obtain rfl : on = true := stops
      exact serves
    | signalDropped => exact serves
    | tick | fill | fillsClosed => cases stops
  obtain ⟨rfl, canceling, cancels, rfl⟩ := shutdown_path shut
  obtain ⟨rfl, rfl⟩ := serveAll_ended nothing
  exact ⟨cycles, k', serving, canceling, ⟨served, cancels⟩, by rw [List.append_nil]; rfl, rfl⟩

namespace Ran

variable {before : List Event} {serving canceling : Transcript}

/-- The whole run is its events, as far as calls, notices and the feed go, and then what it does
about resting orders, with the feed stopped before. -/
theorem whole_parts (ran : Ran k before cycles k' serving canceling) :
    (whole k k' serving canceling).calls = serving.calls ++ canceling.calls ∧
      (whole k k' serving canceling).notices = serving.notices ∧
      (whole k k' serving canceling).stops = 1 ∧
      (whole k k' serving canceling).deeds =
        serving.deeds ++ ⟨.stopFeed, ()⟩ :: canceling.deeds := by
  obtain ⟨untold, unstopped, -⟩ := ran.cancels.plain
  have served : serving.stops = 0 := ran.served.stops
  refine ⟨?_, ?_, ?_, ?_⟩
  · simp [whole, ending]
    rfl
  · simp [whole, ending, untold]
    rfl
  · simp [whole, ending, unstopped, served]
    rfl
  · simp [whole, ending]
    rfl

/-- If what a run does is answered alike, it is the same run but for what it says. -/
theorem unique {k'' : Keeper} {cycles' : List (CycleSummary × Cooldown)}
    {serving' canceling' : Transcript} (ran : Ran k before cycles k' serving canceling)
    (ran' : Ran k before cycles' k'' serving' canceling')
    (alike : AnsweredAlike (whole k k' serving canceling).deeds
      (whole k k'' serving' canceling').deeds) :
    (whole k k'' serving' canceling').deeds = (whole k k' serving canceling).deeds ∧
      cycles' = cycles ∧ k'' = k' := by
  rw [ran.whole_parts.2.2.2, ran'.whole_parts.2.2.2] at alike ⊢
  obtain ⟨same, rfl, rfl, later⟩ := ran.served.unique ran'.served alike
  obtain ⟨-, further⟩ := later rfl
  have cancels := ran.cancels
  have cancels' := ran'.cancels
  rw [Cancels] at cancels cancels'
  have ended : canceling'.deeds = canceling.deeds := by
    split at cancels
    next sets =>
      rw [if_pos sets] at cancels'
      obtain ⟨n, path⟩ := cancels
      obtain ⟨n', path'⟩ := cancels'
      rw [← List.append_nil canceling.deeds, ← List.append_nil canceling'.deeds] at further
      exact (Keeper.cancelAll_plain.determined path path' further).1
    next unset =>
      rw [if_neg unset] at cancels'
      rw [cancels, cancels']
  exact ⟨by rw [same, ended], rfl, rfl⟩

end Ran

/-- A run whose events are `before`, one that stops it, and `after`, which are never served: a cycle
for each tick, with the numbers from one on; each fill that is received is told of once, in their
order, and of nothing after the stop; then the feed is stopped, once, and orders are listed and
canceled if that is set, and no other call is made; the last line is what all summaries add up to.
Any other run with these events in which what is done is answered alike does the same, cycle by
cycle, also if its notices fare differently. At a paper venue where the last list and the cancels go
through no order is left. -/
theorem run_reckoned {settings : Settings} {created : Instant} {before after : List Event}
    {stop : Event} {t : Transcript} {l : Loop} (ticking : settings.tick ≠ 0)
    (going : ∀ e ∈ before, e.stops = false) (stops : stop.stops = true)
    (path : Path (start (Keeper.start settings created) >>=
      (·.serveAll (before ++ stop :: after))) t l) :
    ∃ cycles k serving canceling,
      Ran (Keeper.start settings created) before cycles k serving canceling ∧
      t = whole (Keeper.start settings created) k serving canceling ∧
      cycles.map (·.1.cycle) = List.range' 1 (before.countP (·.isTick)) ∧
      t.filled = (Event.received true before).map (settings.venue, ·) ∧
      t.notices = serving.notices ∧ t.stops = 1 ∧
      (if settings.cancelAllOnShutdown then ∃ n, Path Keeper.cancelAll canceling n
        else canceling = []) ∧
      (∀ x ∈ canceling.calls, x.1.kind = .openOrders ∨ x.1.kind = .cancel) ∧
      l = .ended (Totals.overall (cycles.map (·.1)) (Event.received true before).length) ∧
      t.getLast? = some ⟨.log (.info (Totals.overall (cycles.map (·.1))
        (Event.received true before).length).line), ()⟩ ∧
      (∀ (t' : Transcript) (l' : Loop), Path (start (Keeper.start settings created) >>=
          (·.serveAll (before ++ stop :: after))) t' l' → AnsweredAlike t.deeds t'.deeds →
        t'.deeds = t.deeds ∧ l' = l ∧ ∃ serving' canceling',
          Ran (Keeper.start settings created) before cycles k serving' canceling' ∧
          t' = whole (Keeper.start settings created) k serving' canceling') ∧
      ∀ v w : Paper, v.Serves t.calls w → settings.cancelAllOnShutdown = true →
        (∀ x ∈ canceling.calls, hasFailed x = false) → w.orders = [] := by
  obtain ⟨cycles, k, serving, canceling, ran, rfl, rfl⟩ := run_ran ticking going stops path
  obtain ⟨calls, notices, stopped, -⟩ := ran.whole_parts
  have same : k.settings = settings := ran.served.settings
  have totals : k.totals =
      Totals.overall (cycles.map (·.1)) (Event.received true before).length := by
    have begun : (Keeper.start settings created).totals = Totals.overall [] 0 := rfl
    have sums := ran.served.totals begun
    rwa [List.nil_append, Nat.zero_add] at sums
  have cancels := ran.cancels
  rw [Cancels, same] at cancels
  refine ⟨cycles, k, serving, canceling, ran, rfl, ran.served.numbers, ?_, notices, stopped,
    cancels, ran.cancels.plain.2.2, by rw [totals], ?_, ?_, ?_⟩
  · rw [Transcript.filled, notices]
    exact ran.served.filled
  · rw [← totals]
    exact whole_last _ _ _ _
  · intro t' l' path' alike
    obtain ⟨cycles', k', serving', canceling', ran', rfl, rfl⟩ := run_ran ticking going stops path'
    obtain ⟨deeds, rfl, rfl⟩ := ran.unique ran' alike
    exact ⟨deeds, rfl, serving', canceling', ran', rfl⟩
  · intro v w serves sets through
    rw [if_pos sets] at cancels
    obtain ⟨n, all⟩ := cancels
    rw [calls] at serves
    obtain ⟨u, -, last⟩ := serves.split
    exact last.emptied all through

/-- Two cycles, the first of which places two orders, with one fill that is received and one that
comes when the fills are closed, and a tick that comes too late. -/
def smallBefore : List Event :=
  let f : Fill :=
    { pair := ⟨"X", "BTC"⟩, side := .buy, amount := 1.0, price := 0.001, id := "#7" }
  [.tick (Span.ofSeconds 5), .fill f, .stopSignal false, .tick (Span.ofSeconds 6), .fillsClosed,
    .fill f]

def smallRun : Dialogue Loop :=
  start Keeper.small >>=
    (·.serveAll (smallBefore ++ .stopSignal true :: [.tick (Span.ofSeconds 7)]))

def smallRunTranscript : Transcript := smallRun.transcript Rehearsal.world Rehearsal.small

theorem run_reckoned_small : Keeper.small.settings.tick ≠ 0 ∧
    (∀ e ∈ smallBefore, e.stops = false) ∧ (Event.stopSignal true).stops = true ∧
    ∃ l, Path smallRun smallRunTranscript l ∧ smallRunTranscript.stops = 1 ∧
      smallRunTranscript.filled.length = 1 ∧
      (∃ summaries : List CycleSummary, summaries.map (·.cycle) = [1, 2] ∧
        l = .ended (Totals.overall summaries 1)) ∧
      Rehearsal.small.venue.Serves smallRunTranscript.calls
        (smallRun.run Rehearsal.world Rehearsal.small).2.venue ∧
      smallRunTranscript.calls.countP (·.1.kind = .place) = 2 ∧
      (smallRun.run Rehearsal.world Rehearsal.small).2.venue.orders = [] := by
  have going : ∀ e ∈ smallBefore, e.stops = false := by decide
  have ended : (smallRun.run Rehearsal.world Rehearsal.small).1.toOption.any
      (fun _ => true) = true := by
    decide +kernel
  obtain ⟨l, path, -⟩ := path_transcript_of_run ended
  obtain ⟨served, -⟩ := Rehearsal.serves (d := smallRun) (r := Rehearsal.small) rfl
  have fine : ∀ x ∈ smallRunTranscript.calls, hasFailed x = false := by decide +kernel
  obtain ⟨cycles, k, serving, canceling, ran, all, numbers, told, -, stopped, -, -, totals, -, -,
    emptied⟩ := run_reckoned (by decide) going rfl path
  have within : ∀ x ∈ canceling.calls, hasFailed x = false := by
    intro x member
    have parts : smallRunTranscript.calls = serving.calls ++ canceling.calls := by
      rw [smallRunTranscript, all]
      exact ran.whole_parts.1
    exact fine x (parts ▸ List.mem_append_right _ member)
  refine ⟨by decide, going, rfl, l, path, stopped, ?_, ⟨cycles.map (·.1), ?_, totals⟩, served,
    by decide +kernel, emptied _ _ served rfl within⟩
  · rw [smallRunTranscript, told]
    rfl
  · rw [List.map_map]
    exact numbers

end Loop

end QuoteKeeper
