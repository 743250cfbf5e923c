import QuoteKeeper.Proofs.Cycle.Plainness
import QuoteKeeper.Proofs.Cycle.Plans
import QuoteKeeper.Proofs.Cycle.Stamps
import QuoteKeeper.Proofs.Cycle.Without
import QuoteKeeper.Proofs.Rehearsal.Faultless
import QuoteKeeper.Proofs.Rehearsal.Serving

/-!
# A pair that is out of service

Two cycles, one of a keeper and one of the same keeper without one of its pairs, where the venue and
the feed answer alike whatever both of them ask. If in the first cycle the pair has no valid
reference, or its book cannot be read and none of its orders is past the reference, then the two
make the same calls, but for those that read the book of the pair, and come to the same end.
-/

namespace QuoteKeeper

open Dialogue

/-- The other pairs have the same prices, and this one none with which anything could be done: no
book, and no order that is past the reference. -/
structure Sidelined (settings : Settings) (prices prices' : Prices) (orders : List RestingOrder)
    (p : Pair) : Prop where
  others : ∀ q, q ≠ p → prices'.get? q = prices.get? q
  idle : ∀ q, prices.get? p = some q →
    q.book = none ∧ CancelPlan.pastReference settings orders p q.reference = []

namespace Sidelined

variable {settings : Settings} {prices prices' : Prices} {orders : List RestingOrder} {p : Pair}

theorem unprofitable (aside : Sidelined settings prices prices' orders p) :
    (CancelPlan.unprofitable (settings.without p) prices'
        ⟨(settings.without p).pairs, orders⟩).withdrawals =
      (CancelPlan.unprofitable settings prices ⟨settings.pairs, orders⟩).withdrawals := by
  apply CancelPlan.concat_without
  · intro q different
    simp only [CancelPlan.unprofitableOn, aside.others q different,
      OpenOrders.on_without different]
    rfl
  · intro listed
    apply List.map_eq_nil_iff.mp
    rw [CancelPlan.unprofitableOn_orders listed]
    cases known : prices.get? p with
    | none => rfl
    | some q => exact (aside.idle q known).2

theorem outbid (aside : Sidelined settings prices prices' orders p) :
    (CancelPlan.outbid (settings.without p) prices'
        ⟨(settings.without p).pairs, orders⟩).withdrawals =
      (CancelPlan.outbid settings prices ⟨settings.pairs, orders⟩).withdrawals := by
  apply CancelPlan.concat_without
  · intro q different
    simp only [CancelPlan.outbidOn, aside.others q different, OpenOrders.on_without different]
    rfl
  · intro listed
    have unread : (prices.get? p).bind (·.book) = none := by
      cases known : prices.get? p with
      | none => rfl
      | some q => exact (aside.idle q known).1
    rw [CancelPlan.outbidOn, unread]

end Sidelined

/-- A summary but for its skips and for the calls that failed to look at something. -/
def CycleSummary.core (s : CycleSummary) : CycleSummary :=
  { s with skips := {}, externalFailures := 0 }

namespace Progress

variable {settings : Settings} {prices prices' : Prices} {orders : List RestingOrder} {p : Pair}
  {now : Instant}

theorem PassCourse.spared (aside : Sidelined settings prices prices' orders p)
    {pairs : List Pair} {cooldown : Cooldown} {pass : Pass} {calls : List Exchange}
    (course : PassCourse settings prices ⟨settings.pairs, orders⟩ now pairs cooldown pass calls) :
    ∃ pass', PassCourse (settings.without p) prices' ⟨(settings.without p).pairs, orders⟩ now
        (pairs.filter fun q => decide (q ≠ p)) cooldown pass' calls ∧
      pass'.batch = pass.batch ∧ pass'.cooldown = pass.cooldown := by
  induction course with
  | @nil cooldown => exact ⟨{ cooldown }, .nil, rfl, rfl⟩
  | @unpriced q rest cooldown pass calls missing tail ih =>
    obtain ⟨pass', course, same⟩ := ih
    by_cases here : q = p
    · rw [List.filter_cons_of_neg (by simpa using here)]
      exact ⟨pass', course, same⟩
    · rw [List.filter_cons_of_pos (by simpa using here)]
      exact ⟨pass', .unpriced ((aside.others q here).trans missing) course, same⟩
  | @without q rest cooldown pass o q' calls more known course nothing tail ih =>
    obtain ⟨pass', later, same⟩ := ih
    by_cases here : q = p
    -- The pair itself has no book, so that looking at it takes no call and leaves no trace.
    · subst here
      obtain ⟨-, rfl⟩ := course.unread (aside.idle q' known).1
      rw [List.filter_cons_of_neg (by simp)]
      exact ⟨pass', later, same⟩
    · rw [List.filter_cons_of_pos (by simpa using here)]
      have known' := (aside.others q here).trans known
      exact ⟨_, .without known' (course.without here) nothing later, same⟩
  | @accepted q rest cooldown o q' calls known course nonempty =>
    have here : q ≠ p := by
      rintro rfl
      exact nonempty (course.unread (aside.idle q' known).1).1
    rw [List.filter_cons_of_pos (by simpa using here)]
    have known' := (aside.others q here).trans known
    exact ⟨_, .accepted known' (course.without here) nonempty, rfl, rfl⟩

/-- The two differ at most in what they have skipped and failed to look at. -/
structure Alike (s s' : Progress) : Prop where
  summary : s'.summary.core = s.summary.core
  cooldown : s'.cooldown = s.cooldown

theorem withCancels_core (s : Progress) (reason : CancelReason) (plan : CancelPlan) (now : Instant)
    (failed : Nat) :
    (s.withCancels reason plan now failed).summary.core =
      { countCancels s.summary.core reason plan.withdrawals.length with
        cancelFailures := s.summary.core.cancelFailures + failed } := by
  cases reason with
  | unprofitable | outbid | shutdown => rfl

theorem Alike.withCancels {s s' : Progress} (alike : Alike s s') (reason : CancelReason)
    {plan plan' : CancelPlan} (same : plan'.withdrawals = plan.withdrawals) (failed : Nat) :
    Alike (s.withCancels reason plan now failed) (s'.withCancels reason plan' now failed) := by
  constructor
  · rw [withCancels_core, withCancels_core, alike.summary, same]
  · rw [Progress.withCancels, Progress.withCancels, alike.cooldown, same]

theorem withBatch_core (s : Progress) (pass : Pass) (result : BatchResult) :
    (s.withBatch pass result).summary.core =
      { s.summary.core with
        proposals := pass.batch.length
        ordersPlaced := result.placed.length
        placeFailures := result.failed
        budgetRejected := result.budgetRejected } := rfl

theorem Alike.withBatch {s s' : Progress} (alike : Alike s s') {pass pass' : Pass}
    (batch : pass'.batch = pass.batch) (cooldown : pass'.cooldown = pass.cooldown)
    (result : BatchResult) : Alike (s.withBatch pass result) (s'.withBatch pass' result) := by
  constructor
  · rw [withBatch_core, withBatch_core, alike.summary, batch]
  · exact cooldown

theorem concluded_core (s : Progress) (p : Phase) :
    (s.concluded p).summary.core =
      { s.summary.core with
        outcome := match p with
          | .blocked reason => .blocked reason
          | _ => .completed } := by
  cases p with
  | blocked reason | cancelUnprofitable | cancelOutbid | propose | done => rfl

theorem Alike.concluded {s s' : Progress} (alike : Alike s s') (p : Phase) :
    Alike (s.concluded p) (s'.concluded p) := by
  constructor
  · rw [concluded_core, concluded_core, alike.summary]
  · rw [concluded_cooldown, concluded_cooldown, alike.cooldown]

/-- The phases without the pair make the same calls. -/
theorem PhasesCourse.spared (aside : Sidelined settings prices prices' orders p)
    {s s' s₁ : Progress} {phase : Phase} {calls : List Exchange} (alike : Alike s s')
    (phases : PhasesCourse settings prices ⟨settings.pairs, orders⟩ now s phase s₁ calls) :
    ∃ s₁', PhasesCourse (settings.without p) prices' ⟨(settings.without p).pairs, orders⟩ now s'
      phase s₁' calls ∧ Alike s₁ s₁' := by
  have past := aside.unprofitable
  have behind := aside.outbid
  cases phases with
  | @unprofitable calls n nonempty canceled =>
    rw [← past] at nonempty canceled
    exact ⟨_, .unprofitable nonempty canceled, alike.withCancels .unprofitable past n⟩
  | @outbid calls n nothing nonempty canceled =>
    rw [← past] at nothing
    rw [← behind] at nonempty canceled
    exact ⟨_, .outbid nothing nonempty canceled,
      (alike.withCancels .unprofitable past 0).withCancels .outbid behind n⟩
  | @proposed pass result balances calls nothing nothing' passed placed =>
    obtain ⟨pass', course, batch, cooldown⟩ := passed.spared aside
    rw [← past] at nothing
    rw [← behind] at nothing'
    rw [← batch] at placed
    rw [← alike.cooldown] at course
    refine ⟨_, .proposed nothing nothing' course placed, ?_⟩
    exact ((alike.withCancels .unprofitable past 0).withCancels .outbid behind 0).withBatch batch
      cooldown result

end Progress

/-- In the cycle with this transcript nothing can be done on the pair: its reference is stale or
missing, or its book cannot be read and none of its orders is past the reference. -/
def OutOfService (settings : Settings) (p : Pair) (t : Transcript) : Prop :=
  (∀ r, (p, r) ∈ t.references → r.any BidAsk.isValid = false) ∨
    ((∃ side e, ⟨.topOfBook p side, .error e⟩ ∈ t.calls) ∧
      ∀ orders q, t.openOrders? = some orders → (p, some q) ∈ t.references →
        CancelPlan.pastReference settings orders p q = [])

namespace Progress

variable {settings : Settings} {now : Instant} {cycle : Nat} {cooldown : Cooldown}
  {t : Transcript} {s : Progress} {p : Pair}

/-- A pair on which nothing can be done stands aside in the phases. -/
theorem OutOfService.sidelined (out : OutOfService settings p t) {orders : List RestingOrder}
    {readings : List (Pair × Reading)} {reads calls : List Exchange}
    (made : t.calls = ⟨.openOrders, .ok orders⟩ :: (reads ++ calls))
    (read : Reading.Courses t.references readings reads)
    (distinct : (readings.map (·.1)).Nodup) (others : ∀ x ∈ calls, x.1.kind ≠ .topOfBook) :
    Sidelined settings (Prices.ofReadings readings)
      (Prices.ofReadings (readings.filter fun e => decide (e.1 ≠ p))) orders p := by
  constructor
  · intro q different
    exact Prices.get?_without distinct different
  · intro q known
    have found := Prices.mem_of_get? known
    obtain ⟨told, valid⟩ := read.valid found
    rcases out with stale | ⟨⟨side, e, failed⟩, unpassed⟩
    · have invalid := stale _ told
      rw [Option.any_some, valid] at invalid
      exact nomatch invalid
    · refine ⟨?_, unpassed orders q.reference (Transcript.openOrders?_eq made) told⟩
      rw [made] at failed
      rcases List.mem_cons.mp failed with first | later
      · cases first
      · rcases List.mem_append.mp later with here | after
        · exact read.unread distinct here found
        · exact absurd rfl (others _ after)

/-- Without the pair the cycle can go on alike, with the same calls but for its book. -/
theorem Course.spared (course : Course settings cycle cooldown now t s)
    (distinct : settings.pairs.Nodup) (out : OutOfService settings p t) :
    ∃ (u : Transcript) (s' : Progress),
      Path (ofCycle (settings.without p) cycle cooldown now) u s' ∧ u.feed? = t.feed? ∧
      (∀ e ∈ u.references, e ∈ t.references) ∧ u.calls = otherCalls p t.calls ∧ Alike s s' := by
  cases course with
  | starting feed quiet =>
    obtain ⟨u, path, off, unasked, nothing⟩ :=
      starting_path (settings.without p) now cycle cooldown
    refine ⟨u, _, path, off.trans feed.symm, ?_, ?_, rfl, rfl⟩
    · rw [unasked]
      exact List.forall_mem_nil _
    · rw [nothing, quiet.1]
      rfl
  | @aborted e feed unasked made =>
    obtain ⟨u, path, on, unasked', nothing⟩ :=
      aborted_path (settings.without p) now cycle cooldown e
    refine ⟨u, _, path, on.trans feed.symm, ?_, ?_, rfl, rfl⟩
    · rw [unasked']
      exact List.forall_mem_nil _
    · rw [nothing, made]
      rfl
  | @ran orders readings reads calls phase s feed made order read shown phases announced =>
    have keys : (readings.map (·.1)).Nodup := by
      rw [read.keys, order]
      exact distinct
    have aside := OutOfService.sidelined out made read keys phases.unread
    have fresh : Alike { summary := opening cycle (Prices.ofReadings readings), cooldown }
        { summary :=
            opening cycle (Prices.ofReadings (readings.filter fun e => decide (e.1 ≠ p)))
          cooldown } := ⟨rfl, rfl⟩
    obtain ⟨s', phases', alike⟩ := phases.spared aside fresh
    have order' : (t.references.filter fun e => decide (e.1 ≠ p)).map (·.1) =
        (settings.without p).pairs := by
      rw [Settings.without, ← order, List.filter_map]
      rfl
    obtain ⟨u, path, on, asked, made'⟩ := ran_path order' (read.without p) phases'
    refine ⟨u, _, path, on.trans feed.symm, ?_, ?_, alike.concluded phase⟩
    · rw [asked]
      intro e member
      exact (List.mem_filter.mp member).1
    · rw [made', made, ← List.cons_append, ← List.cons_append, otherCalls_append,
        otherCalls_of_kind p phases.unread]
      rfl

end Progress

/-- The feed runs in both transcripts or in neither, no pair has two reference prices, and the venue
answers alike for as long as it is called alike, but for the book of a pair. -/
structure SameWorld (p : Pair) (t t' : Transcript) : Prop where
  feed : t'.feed? = t.feed?
  references : SameReferences t.references t'.references
  calls : SameAnswers (otherCalls p t.calls) t'.calls

/-- Where no pair is listed twice, no pair is asked for its reference price twice. -/
theorem Progress.Course.askedOnce {settings : Settings} {cycle : Nat} {cooldown : Cooldown}
    {now : Instant} {t : Transcript} {s : Progress}
    (course : Course settings cycle cooldown now t s) (distinct : settings.pairs.Nodup) :
    (t.references.map (·.1)).Nodup := by
  cases course with
  | starting feed quiet =>
    rw [quiet.2]
    exact List.nodup_nil
  | aborted feed unasked made =>
    rw [unasked]
    exact List.nodup_nil
  | ran feed made order read shown phases announced =>
    rw [order]
    exact distinct

namespace Keeper

/-- Without a pair that is out of service there is a cycle that goes alike. -/
theorem cycle_without {k k' : Keeper} {now : Instant} {t : Transcript} {s : CycleSummary} {p : Pair}
    (distinct : k.settings.pairs.Nodup) (path : Path (k.cycle now) t (s, k'))
    (out : OutOfService k.settings p t) :
    ∃ (u : Transcript) (progress : Progress),
      Path (Progress.ofCycle (k.settings.without p) (k.cycles + 1) k.cooldown now) u progress ∧
      SameWorld p t u ∧ (∀ e ∈ u.references, e ∈ t.references) ∧ u.calls = otherCalls p t.calls ∧
      progress.summary.core = s.core ∧ progress.cooldown = k'.cooldown := by
  obtain ⟨progress, course, rfl, rfl⟩ := cycle_course path
  obtain ⟨u, progress', path', feed, fewer, calls, alike⟩ := course.spared distinct out
  refine ⟨u, progress', path', ⟨feed, ?_, ?_⟩, fewer, calls, alike.summary, alike.cooldown⟩
  · intro q r r' told told'
    have once := course.askedOnce distinct
    have same := List.inj_on_of_nodup_map once (fewer _ told') told rfl
    exact (Prod.mk.inj same).2
  · rw [calls]
    exact .refl _

/-- If nothing can be done on a pair in a cycle, the cycle without that pair, in the same world,
goes alike: there is such a cycle, and any such cycle makes the same calls in the same order but for
those that read the book of the pair, ends alike with the same counts of cancels, proposals and
orders, and leaves the same action times and the same venue. -/
theorem cycle_isolated {k k' : Keeper} {now : Instant} {t : Transcript} {s : CycleSummary}
    {p : Pair} (distinct : k.settings.pairs.Nodup) (path : Path (k.cycle now) t (s, k'))
    (out : OutOfService k.settings p t) :
    (∃ (t' : Transcript) (s' : CycleSummary) (k'' : Keeper),
      Path ((k.without p).cycle now) t' (s', k'') ∧ SameWorld p t t') ∧
    ∀ (t' : Transcript) (s' : CycleSummary) (k'' : Keeper),
      Path ((k.without p).cycle now) t' (s', k'') → SameWorld p t t' →
      t'.calls = otherCalls p t.calls ∧ s'.core = s.core ∧ k''.cooldown = k'.cooldown ∧
      (∀ v w w' : Paper, v.Answers t.calls w → v.Answers t'.calls w' → w' = w) ∧
      ∀ {σ : Type} (step : σ → Exchange → σ), (∀ v x, readsBookOf p x = true → step v x = v) →
        ∀ v, t'.calls.foldl step v = t.calls.foldl step v := by
  obtain ⟨u, progress, goes, world, fewer, calls, core, cooldown⟩ :=
    cycle_without distinct path out
  -- One way to go without the pair is known; in the same world there is no other.
  constructor
  · obtain ⟨rest, ⟨⟩, reports⟩ := exists_path (report k.settings.venue progress.summary)
    have quiet := report_quiet reports
    refine ⟨u ++ rest, progress.summary, (k.without p).after progress,
      cycle_path_iff.mpr ⟨u, progress, rest, rfl, goes, reports, rfl, rfl⟩, ?_, ?_, ?_⟩
    · rw [Progress.ofCycle_feed goes]
      exact world.feed
    · rw [Transcript.references_append, quiet.2, List.append_nil]
      exact world.references
    · rw [Transcript.calls_append, quiet.1, List.append_nil]
      exact world.calls
  · intro t' s' k'' path' world'
    obtain ⟨first, progress', rest, rfl, goes', reports, rfl, rfl⟩ := cycle_path_iff.mp path'
    have quiet := report_quiet reports
    have made : Transcript.calls (first ++ rest) = first.calls := by
      rw [Transcript.calls_append, quiet.1, List.append_nil]
    have asked : Transcript.references (first ++ rest) = first.references := by
      rw [Transcript.references_append, quiet.2, List.append_nil]
    obtain ⟨feed, references, answers⟩ := world'
    rw [Progress.ofCycle_feed goes'] at feed
    rw [asked] at references
    rw [made, ← calls] at answers
    obtain ⟨rfl, rfl⟩ := Progress.ofCycle_unique goes goes' (feed.trans world.feed.symm) answers
      fun q r r' told told' => references q r r' (fewer _ told) told'
    rw [made, calls]
    refine ⟨rfl, core, cooldown, ?_, ?_⟩
    · intro v w w' answers answers'
      exact (answers.otherCalls p).unique answers'
    · intro σ step idle v
      exact foldl_otherCalls idle t.calls v

/-- A call for the book of a pair that has failed. -/
def isUnread (p : Pair) : Exchange → Bool
  | ⟨.topOfBook q _, .error _⟩ => decide (q = p)
  | _ => false

theorem isUnread_iff {p : Pair} {x : Exchange} :
    isUnread p x = true ↔ ∃ side e, x = ⟨.topOfBook p side, .error e⟩ := by
  constructor
  · intro unread
    obtain ⟨c, r⟩ := x
    cases c with
    | topOfBook q side =>
      cases r with
      | error e =>
        obtain rfl := of_decide_eq_true unread
        exact ⟨side, e, rfl⟩
      | ok price => exact nomatch unread
    | openOrders | balance | cancel | place | budgetAdjust => exact nomatch unread
  · rintro ⟨side, e, rfl⟩
    exact decide_eq_true rfl

/-- The first pair of the row has no book, and the cycle goes alike without it, one call shorter. -/
theorem cycle_isolated_row : ∃ (s : CycleSummary) (k' : Keeper) (t' : Transcript)
    (s' : CycleSummary) (k'' : Keeper),
    Path (Keeper.smallRow.cycle (Span.ofSeconds 5)) Rehearsal.rowTranscript (s, k') ∧
      s.placeFailures = 2 ∧ s.skips.count = 1 ∧
      OutOfService Keeper.smallRow.settings ⟨"W", "BTC"⟩ Rehearsal.rowTranscript ∧
      Path ((Keeper.smallRow.without ⟨"W", "BTC"⟩).cycle (Span.ofSeconds 5)) t' (s', k'') ∧
      SameWorld ⟨"W", "BTC"⟩ Rehearsal.rowTranscript t' ∧
      t'.calls = otherCalls ⟨"W", "BTC"⟩ Rehearsal.rowTranscript.calls ∧
      t'.calls.length + 1 = Rehearsal.rowTranscript.calls.length ∧
      s'.core = s.core ∧ k''.cooldown = k'.cooldown := by
  obtain ⟨s, k', path, -, refused, counted⟩ := Rehearsal.rowTranscript_path
  have failed : Rehearsal.rowTranscript.calls.any (isUnread ⟨"W", "BTC"⟩) = true := by
    decide +kernel
  have empty : Rehearsal.rowTranscript.openOrders? = some [] := by
    decide +kernel
  have one : (otherCalls ⟨"W", "BTC"⟩ Rehearsal.rowTranscript.calls).length + 1 =
      Rehearsal.rowTranscript.calls.length := by
    decide +kernel
  have out : OutOfService Keeper.smallRow.settings ⟨"W", "BTC"⟩ Rehearsal.rowTranscript := by
    right
    constructor
    · obtain ⟨x, member, unread⟩ := List.any_eq_true.mp failed
      obtain ⟨side, e, rfl⟩ := isUnread_iff.mp unread
      exact ⟨side, e, member⟩
    · intro orders q known told
      obtain rfl := Option.some.inj (empty.symm.trans known)
      rfl
  obtain ⟨⟨t', s', k'', path', world⟩, alike⟩ := cycle_isolated (by decide) path out
  obtain ⟨calls, core, cooldown, -⟩ := alike t' s' k'' path' world
  exact ⟨s, k', t', s', k'', path, refused, counted, out, path', world, calls, calls ▸ one, core,
    cooldown⟩

end Keeper

end QuoteKeeper
