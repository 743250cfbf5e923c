import QuoteKeeper.Proofs.Cycle.Plainness
import QuoteKeeper.Proofs.Cycle.Stamps
import QuoteKeeper.Proofs.Venue.Answering

/-!
# What a summary says was done

The counters of a summary against the calls of its cycle: each counter is a number of calls of some
kind that were made, went through or failed, and every call that failed is in one of them. What was
proposed is the batch that was checked against the budget, and each candidate of it is placed,
refused or rejected, unless the check itself fails. A notice is sent if an order was to be placed or
canceled.
-/

namespace QuoteKeeper

open Dialogue

/-- Whatever came back. -/
def wasMade (_ : Exchange) : Bool := true

def hasFailed : Exchange → Bool
  | ⟨_, .error _⟩ => true
  | ⟨_, .ok _⟩ => false

def wentThrough (x : Exchange) : Bool := !hasFailed x

/-- How many calls of some kinds pass a test. -/
def tally (kinds : List CallKind) (test : Exchange → Bool) (calls : List Exchange) : Nat :=
  calls.countP fun x => decide (x.1.kind ∈ kinds) && test x

/-- The kinds of calls that leave the orders alone. -/
def looking : List CallKind := [.openOrders, .topOfBook, .balance, .budgetAdjust]

theorem tally_append (kinds : List CallKind) (test : Exchange → Bool) (a b : List Exchange) :
    tally kinds test (a ++ b) = tally kinds test a + tally kinds test b :=
  List.countP_append

theorem tally_of_others {calls : List Exchange} {kinds : List CallKind}
    (others : ∀ x ∈ calls, x.1.kind ∉ kinds) (test : Exchange → Bool) :
    tally kinds test calls = 0 := by
  apply List.countP_eq_zero.mpr
  intro x member
  simp [others x member]

theorem tally_of_kind {calls : List Exchange} {kind : CallKind}
    (all : ∀ x ∈ calls, x.1.kind = kind) (kinds : List CallKind) (test : Exchange → Bool) :
    tally kinds test calls = if kind ∈ kinds then calls.countP test else 0 := by
  by_cases counts : kind ∈ kinds
  · rw [if_pos counts]
    apply List.countP_congr
    intro x member
    simp [all x member, counts]
  · rw [if_neg counts]
    apply tally_of_others
    intro x member
    rw [all x member]
    exact counts

theorem tally_cons_other {x : Exchange} {kinds : List CallKind} (other : x.1.kind ∉ kinds)
    (test : Exchange → Bool) (calls : List Exchange) :
    tally kinds test (x :: calls) = tally kinds test calls := by
  simp [tally, other]

/-- A call that is made goes through or fails. -/
theorem tally_wasMade (kinds : List CallKind) (calls : List Exchange) :
    tally kinds wasMade calls = tally kinds wentThrough calls + tally kinds hasFailed calls := by
  have all : tally kinds wasMade calls = calls.countP fun x => decide (x.1.kind ∈ kinds) := by
    simp [tally, wasMade]
  rw [all, List.countP_eq_countP_filter_add calls _ wentThrough, List.countP_filter,
    List.countP_filter]
  simp [tally, wentThrough]

/-- A call that fails is a cancel, an order or a look. -/
theorem countP_hasFailed (calls : List Exchange) :
    calls.countP hasFailed =
      tally [.cancel] hasFailed calls + tally [.place] hasFailed calls +
        tally looking hasFailed calls := by
  induction calls with
  | nil => rfl
  | cons x calls ih =>
    simp only [tally, List.countP_cons] at ih ⊢
    cases fails : hasFailed x with
    | false => simp [ih]
    | true =>
      cases kind : x.1.kind with
      | topOfBook | openOrders | balance | cancel | place | budgetAdjust =>
        simp [looking, ih]
        omega

namespace Reading

/-- A book that is missing is one call that failed. -/
theorem Course.failures {p : Pair} {r : Option BidAsk} {reading : Reading} {calls : List Exchange}
    (course : Course p r reading calls) :
    calls.countP hasFailed = if reading.any (·.book.isNone) then 1 else 0 := by
  cases course with
  | stale | noBid | noAsk | whole => rfl

theorem Courses.failures {asked : List (Pair × Option BidAsk)} {readings : List (Pair × Reading)}
    {calls : List Exchange} (courses : Courses asked readings calls) :
    (Prices.ofReadings readings).bookFailures = calls.countP hasFailed := by
  change (readings.countP fun reading => reading.2.any (·.book.isNone)) = _
  induction courses with
  | nil => rfl
  | cons head tail ih =>
    rw [List.countP_cons, List.countP_append, head.failures, ih]
    exact Nat.add_comm _ _

end Reading

namespace Batch

theorem Canceled.failures {ws : List Withdrawal} {calls : List Exchange} {n : Nat}
    (canceled : Canceled ws calls n) : calls.countP hasFailed = n := by
  induction canceled with
  | nil => rfl
  | done rest ih =>
    rw [List.countP_cons_of_neg (by simp [hasFailed]), ih]
  | failed e rest ih =>
    rw [List.countP_cons_of_pos rfl, ih]

/-- Each candidate is placed or refused. -/
theorem Placed.reckoned {cs : List Candidate} {result : BatchResult} {calls : List Exchange}
    (placed : Placed cs result calls) :
    result.placed.length = calls.countP wentThrough ∧ result.failed = calls.countP hasFailed ∧
      result.budgetRejected = 0 ∧ result.externalFailures = 0 ∧
      cs.length = result.placed.length + result.failed := by
  induction placed with
  | nil => exact ⟨rfl, rfl, rfl, rfl, rfl⟩
  | done id rest ih =>
    obtain ⟨through, refused, rejected, unchecked, all⟩ := ih
    refine ⟨?_, ?_, rejected, unchecked, ?_⟩
    · rw [List.countP_cons_of_pos rfl, ← through]
      rfl
    · rw [List.countP_cons_of_neg (by simp [hasFailed]), ← refused]
    · simp only [List.length_cons]
      omega
  | failed e rest ih =>
    obtain ⟨through, refused, rejected, unchecked, all⟩ := ih
    refine ⟨?_, ?_, rejected, unchecked, ?_⟩
    · rw [List.countP_cons_of_neg (by simp [wentThrough, hasFailed]), ← through]
    · rw [List.countP_cons_of_pos rfl, ← refused]
    · simp only [List.length_cons]
      omega

/-- What became of a batch is counted call by call, and nothing of it is lost unless the check of
the budget fails. -/
theorem Course.reckoned {batch : List Candidate} {result : BatchResult} {calls : List Exchange}
    (course : Course batch result calls) :
    result.placed.length = tally [.place] wentThrough calls ∧
      result.failed = tally [.place] hasFailed calls ∧
      result.externalFailures = tally [.budgetAdjust] hasFailed calls ∧
      (if tally [.budgetAdjust] hasFailed calls = 0 then
        batch.length = result.placed.length + result.failed + result.budgetRejected
      else
        result.placed.length = 0 ∧ result.failed = 0 ∧ result.budgetRejected = 0) := by
  cases course with
  | empty nothing =>
    rw [nothing]
    exact ⟨rfl, rfl, rfl, rfl⟩
  | unchecked nonempty e => exact ⟨rfl, rfl, rfl, rfl, rfl, rfl⟩
  | rejected nonempty cut =>
    refine ⟨rfl, rfl, rfl, ?_⟩
    exact (Nat.zero_add _).symm
  | @placed adjusted result calls nonempty whole all =>
    obtain ⟨through, refused, rejected, unchecked, each⟩ := all.reckoned
    have checked : tally [.budgetAdjust] hasFailed
        (⟨.budgetAdjust batch true, .ok adjusted⟩ :: calls) = 0 :=
      tally_of_kind all.kind [.budgetAdjust] hasFailed
    have placing : ∀ test, tally [.place] test
        (⟨.budgetAdjust batch true, .ok adjusted⟩ :: calls) = calls.countP test := by
      intro test
      have checking : CallKind.budgetAdjust ∉ [.place] := by
        decide
      rw [tally_cons_other checking]
      exact tally_of_kind all.kind [.place] test
    rw [checked, if_pos rfl, placing, placing]
    refine ⟨through, refused, unchecked, ?_⟩
    omega

end Batch

namespace Proposal

theorem BuySideCourse.failures {settings : Settings} {p : Pair} {orders : OpenOrders}
    {boundary bid target : Decimal} {o : SideOutcome} {calls : List Exchange}
    (course : BuySideCourse settings p orders boundary bid target o calls) :
    calls.countP hasFailed = o.failures := by
  cases course with
  | resting | excluded => rfl
  | looked free bought course =>
    cases course with
    | noPrice | tooFar | noAmount | unread | noFunds | order => rfl

theorem SellSideCourse.failures {settings : Settings} {p : Pair} {orders : OpenOrders}
    {boundary ask target : Decimal} {o : SideOutcome} {calls : List Exchange}
    (course : SellSideCourse settings p orders boundary ask target o calls) :
    calls.countP hasFailed = o.failures := by
  cases course with
  | resting => rfl
  | looked free course =>
    cases course with
    | noPrice | tooFar | unread | noFunds | order => rfl

theorem Course.failures {settings : Settings} {p : Pair} {prices : PairPrices}
    {orders : OpenOrders} {cooldown : Cooldown} {now : Instant} {o : PairOutcome}
    {calls : List Exchange} (course : Course settings p prices orders cooldown now o calls) :
    calls.countP hasFailed = o.failures := by
  cases course with
  | waiting | noBook | noBoundary | noSize => rfl
  | sides due known highest lowest sized bought sold =>
    rw [List.countP_append, bought.failures, sold.failures]
    rfl

end Proposal

namespace Progress

open Transcript

theorem PassCourse.failures {settings : Settings} {prices : Prices} {orders : OpenOrders}
    {now : Instant} {pairs : List Pair} {cooldown : Cooldown} {pass : Pass}
    {calls : List Exchange}
    (course : PassCourse settings prices orders now pairs cooldown pass calls) :
    calls.countP hasFailed = pass.failures := by
  induction course with
  | nil => rfl
  | unpriced missing tail ih => exact ih
  | without known head nothing tail ih => rw [List.countP_append, head.failures, ih]
  | accepted known head nonempty => exact head.failures

/-- The counters of a summary that are about orders, against the calls of the cycle. -/
structure Reckoned (s : CycleSummary) (calls : List Exchange) : Prop where
  cancels : s.cancels = tally [.cancel] wasMade calls
  cancelFailures : s.cancelFailures = tally [.cancel] hasFailed calls
  ordersPlaced : s.ordersPlaced = tally [.place] wentThrough calls
  placeFailures : s.placeFailures = tally [.place] hasFailed calls
  /-- At most one batch is checked, and the proposals are its candidates. -/
  proposals : (calls.filterMap batch? = [] ∧ s.proposals = 0) ∨
    ∃ batch, calls.filterMap batch? = [batch] ∧ s.proposals = batch.length
  /-- Each proposal is placed, refused or rejected, unless the check fails. -/
  settled : if tally [.budgetAdjust] hasFailed calls = 0 then
      s.proposals = s.ordersPlaced + s.placeFailures + s.budgetRejected
    else
      s.ordersPlaced = 0 ∧ s.placeFailures = 0 ∧ s.budgetRejected = 0

/-- To look before does not count. -/
theorem Reckoned.after {s : CycleSummary} {before calls : List Exchange}
    (reckoned : Reckoned s calls) (looks : Looks before) : Reckoned s (before ++ calls) := by
  have same : ∀ kind test, kind ∉ [.openOrders, .topOfBook, .balance] →
      tally [kind] test (before ++ calls) = tally [kind] test calls := by
    intro kind test other
    rw [tally_append, tally_of_others, Nat.zero_add]
    intro x member listed
    exact looks.others other x member (List.mem_singleton.mp listed)
  have batches : (before ++ calls).filterMap batch? = calls.filterMap batch? := by
    rw [List.filterMap_append, batches_eq_nil (looks.others (by decide)), List.nil_append]
  constructor
  · rw [same _ _ (by decide)]
    exact reckoned.cancels
  · rw [same _ _ (by decide)]
    exact reckoned.cancelFailures
  · rw [same _ _ (by decide)]
    exact reckoned.ordersPlaced
  · rw [same _ _ (by decide)]
    exact reckoned.placeFailures
  · rw [batches]
    exact reckoned.proposals
  · rw [same _ _ (by decide)]
    exact reckoned.settled

/-- A cycle that has only canceled. -/
theorem Reckoned.canceled {s : CycleSummary} {ws : List Withdrawal} {calls : List Exchange}
    {failed : Nat} (canceled : Batch.Canceled ws calls failed) (cancels : s.cancels = ws.length)
    (failures : s.cancelFailures = failed) (proposals : s.proposals = 0)
    (placed : s.ordersPlaced = 0) (refused : s.placeFailures = 0)
    (rejected : s.budgetRejected = 0) : Reckoned s calls := by
  have only := tally_of_kind canceled.kind
  constructor
  · rw [only, if_pos (by decide), cancels, ← canceled.length_eq]
    exact (List.countP_eq_length.mpr fun _ _ => rfl).symm
  · rw [only, if_pos (by decide), canceled.failures, failures]
  · rw [only, if_neg (by decide), placed]
  · rw [only, if_neg (by decide), refused]
  · exact Or.inl ⟨batches_eq_nil (others_of_kind canceled.kind (by decide)), proposals⟩
  · have unchecked : tally [.budgetAdjust] hasFailed calls = 0 := only [.budgetAdjust] hasFailed
    rw [unchecked, if_pos rfl, proposals, placed, refused, rejected]

/-- What the phases add to the counters. -/
theorem PhasesCourse.reckoned {settings : Settings} {prices : Prices} {orders : OpenOrders}
    {now : Instant} {cycle : Nat} {cooldown : Cooldown} {s : Progress} {p : Phase}
    {calls : List Exchange}
    (phases : PhasesCourse settings prices orders now
      { summary := opening cycle prices, cooldown } p s calls) :
    Reckoned s.summary calls ∧
      s.summary.externalFailures = prices.bookFailures + tally looking hasFailed calls := by
  cases phases with
  | @unprofitable calls n nonempty canceled =>
    rw [tally_of_kind canceled.kind, if_neg (by decide)]
    refine ⟨.canceled canceled ?_ ?_ rfl rfl rfl rfl, rfl⟩
    · simp [withCancels, countCancels, opening, CycleSummary.cancels]
    · simp [withCancels, countCancels, opening]
  | @outbid calls n nothing nonempty canceled =>
    rw [tally_of_kind canceled.kind, if_neg (by decide)]
    refine ⟨.canceled canceled ?_ ?_ rfl rfl rfl rfl, rfl⟩
    · simp [withCancels, countCancels, opening, CycleSummary.cancels, nothing]
    · simp [withCancels, countCancels, opening]
  | @proposed pass result balances calls nothing nothing' passed placed =>
    obtain ⟨through, refused, unchecked, settled⟩ := placed.reckoned
    have looked : ∀ kinds test, CallKind.balance ∉ kinds →
        tally kinds test (balances ++ calls) = tally kinds test calls := by
      intro kinds test unlike
      rw [tally_append, tally_of_kind passed.onlyBalances, if_neg unlike, Nat.zero_add]
    have uncanceled : ∀ test, tally [.cancel] test calls = 0 := by
      intro test
      apply tally_of_others
      intro x member listed
      exact placed.others (by decide) (by decide) x member (List.mem_singleton.mp listed)
    have failures : tally looking hasFailed calls = tally [.budgetAdjust] hasFailed calls := by
      apply List.countP_congr
      intro x member
      rcases placed.kind x member with kind | kind
      · simp [kind, looking]
      · simp [kind, looking]
    have batches : (balances ++ calls).filterMap batch? =
        if pass.batch = [] then [] else [pass.batch] := by
      rw [List.filterMap_append,
        batches_eq_nil (others_of_kind passed.onlyBalances (by decide)), List.nil_append]
      exact placed.batches
    constructor
    · constructor
      · rw [looked _ _ (by decide), uncanceled]
        simp [withBatch, withCancels, countCancels, opening, CycleSummary.cancels, nothing,
          nothing']
      · rw [looked _ _ (by decide), uncanceled]
        rfl
      · rw [looked _ _ (by decide)]
        exact through
      · rw [looked _ _ (by decide)]
        exact refused
      · rw [batches]
        by_cases empty : pass.batch = []
        · exact Or.inl ⟨if_pos empty, congrArg List.length empty⟩
        · exact Or.inr ⟨pass.batch, if_neg empty, rfl⟩
      · rw [looked _ _ (by decide)]
        exact settled
    · rw [tally_append, tally_of_kind passed.onlyBalances, if_pos (by decide), passed.failures,
        failures, ← unchecked]
      exact Nat.add_assoc _ _ _

theorem concluded_reckoned {p : Phase} {s : Progress} {calls : List Exchange} :
    Reckoned (s.concluded p).summary calls ↔ Reckoned s.summary calls := by
  cases p with
  | blocked reason | cancelUnprofitable | cancelOutbid | propose | done =>
    constructor
    · intro reckoned
      exact ⟨reckoned.1, reckoned.2, reckoned.3, reckoned.4, reckoned.5, reckoned.6⟩
    · intro reckoned
      exact ⟨reckoned.1, reckoned.2, reckoned.3, reckoned.4, reckoned.5, reckoned.6⟩

theorem concluded_externalFailures (p : Phase) (s : Progress) :
    (s.concluded p).summary.externalFailures = s.summary.externalFailures := by
  cases p with
  | blocked reason => rfl
  | cancelUnprofitable | cancelOutbid | propose | done => rfl

/-- The counters of a whole cycle. -/
theorem Course.reckoned {settings : Settings} {cycle : Nat} {cooldown : Cooldown} {now : Instant}
    {t : Transcript} {s : Progress} (course : Course settings cycle cooldown now t s) :
    Reckoned s.summary t.calls ∧
      s.summary.externalFailures = tally looking hasFailed t.calls := by
  cases course with
  | starting feed quiet =>
    rw [quiet.1]
    exact ⟨⟨rfl, rfl, rfl, rfl, Or.inl ⟨rfl, rfl⟩, rfl⟩, rfl⟩
  | aborted feed unasked made =>
    rw [made]
    exact ⟨⟨rfl, rfl, rfl, rfl, Or.inl ⟨rfl, rfl⟩, rfl⟩, rfl⟩
  | @ran orders readings reads calls p s feed made order read shown phases announced =>
    obtain ⟨reckoned, external⟩ := phases.reckoned
    have looks : Looks (⟨.openOrders, .ok orders⟩ :: reads) :=
      List.forall_mem_cons.mpr ⟨List.mem_cons_self, looks_of_kind read.kind (by decide)⟩
    have opened : tally looking hasFailed (⟨.openOrders, .ok orders⟩ :: reads) =
        tally looking hasFailed reads :=
      List.countP_cons_of_neg (by simp [hasFailed])
    rw [made, ← List.cons_append, concluded_reckoned, concluded_externalFailures]
    refine ⟨reckoned.after looks, ?_⟩
    rw [external, tally_append, opened, tally_of_kind read.kind, if_pos (by decide),
      read.failures]

end Progress

namespace Keeper

/-- A report sends its notice if something was to change an order. -/
theorem report_notices {venue : String} {s : CycleSummary} {t : Transcript} {u : Unit}
    (path : Path (report venue s) t u) : t.notices = if s.acted then [.cycle venue s] else [] := by
  obtain ⟨rest, rfl, goesOn⟩ := path_log_iff.mp path
  rw [Transcript.notices_log]
  split at goesOn
  next acted =>
    obtain ⟨r, last, rfl, ends⟩ := path_notify_iff.mp goesOn
    rw [if_pos acted]
    cases r with
    | ok v =>
      obtain ⟨rfl, -⟩ := path_pure_iff.mp ends
      rfl
    | error e =>
      rw [path_log_last_iff.mp ends]
      rfl
  next idle =>
    obtain ⟨rfl, -⟩ := path_pure_iff.mp goesOn
    rw [if_neg idle]
    rfl

/-- A summary tells of an act if a call to change an order was made, also if it has failed. -/
theorem acted_iff {s : CycleSummary} {calls : List Exchange}
    (reckoned : Progress.Reckoned s calls) :
    s.acted = true ↔ 0 < tally [.cancel] wasMade calls + tally [.place] wasMade calls := by
  have failures : s.cancelFailures ≤ s.cancels := by
    rw [reckoned.cancelFailures, reckoned.cancels, tally_wasMade]
    exact Nat.le_add_left _ _
  rw [← reckoned.cancels, tally_wasMade [.place], ← reckoned.ordersPlaced, ← reckoned.placeFailures]
  rw [CycleSummary.acted, CycleSummary.actions]
  simp only [Bool.or_eq_true, decide_eq_true_eq]
  omega

/-- What the summary tells of a cycle is what the cycle did, whatever the venue answers and
whichever calls fail; every call that fails is counted once; and a notice of the summary is sent if
an order was to be canceled or placed, and no other notice. -/
theorem cycle_reckoned {k k' : Keeper} {now : Instant} {t : Transcript} {s : CycleSummary}
    (path : Path (k.cycle now) t (s, k')) :
    Progress.Reckoned s t.calls ∧
      s.externalFailures =
        tally [.openOrders, .topOfBook, .balance, .budgetAdjust] hasFailed t.calls ∧
      s.cancelFailures + s.placeFailures + s.externalFailures = t.calls.countP hasFailed ∧
      t.notices =
        if 0 < tally [.cancel] wasMade t.calls + tally [.place] wasMade t.calls then
          [.cycle k.settings.venue s]
        else [] := by
  obtain ⟨progress, course, rfl, -⟩ := cycle_course path
  obtain ⟨reckoned, external⟩ := course.reckoned
  refine ⟨reckoned, external, ?_, ?_⟩
  · rw [countP_hasFailed, reckoned.cancelFailures, reckoned.placeFailures, external]
  · obtain ⟨first, progress', rest, rfl, goes, reports, summary, -⟩ := cycle_path_iff.mp path
    rw [← summary] at reports
    rw [Transcript.notices_append, Progress.ofCycle_notices goes, report_notices reports]
    by_cases acted : progress.summary.acted = true
    · rw [if_pos acted, if_pos ((acted_iff reckoned).mp acted)]
      rfl
    · rw [if_neg acted, if_neg fun act => acted ((acted_iff reckoned).mpr act)]
      rfl

/-- A cancel that fails is a cancel, a failure and worth a notice. -/
theorem cycle_reckoned_stuck : ∃ s k',
    Path (Keeper.small.cycle (Span.ofSeconds 5)) Rehearsal.stuckTranscript (s, k') ∧
      Progress.Reckoned s Rehearsal.stuckTranscript.calls ∧
      s.cancels = 1 ∧ s.cancelFailures = 1 ∧ s.externalFailures = 0 ∧
      s.cancelFailures + s.placeFailures + s.externalFailures = 1 ∧
      Rehearsal.stuckTranscript.notices = [.cycle Keeper.small.settings.venue s] := by
  obtain ⟨s, k', path⟩ := Rehearsal.stuckTranscript_path
  obtain ⟨reckoned, external, failures, notices⟩ := cycle_reckoned path
  have canceled : tally [.cancel] wasMade Rehearsal.stuckTranscript.calls = 1 := by
    decide +kernel
  have refused : tally [.cancel] hasFailed Rehearsal.stuckTranscript.calls = 1 := by
    decide +kernel
  have looked : tally [.openOrders, .topOfBook, .balance, .budgetAdjust] hasFailed
      Rehearsal.stuckTranscript.calls = 0 := by
    decide +kernel
  have one : Rehearsal.stuckTranscript.calls.countP hasFailed = 1 := by
    decide +kernel
  refine ⟨s, k', path, reckoned, ?_, ?_, ?_, ?_, ?_⟩
  · rw [reckoned.cancels, canceled]
  · rw [reckoned.cancelFailures, refused]
  · rw [external, looked]
  · rw [failures, one]
  · rw [notices, canceled, if_pos (by omega)]

end Keeper

end QuoteKeeper
