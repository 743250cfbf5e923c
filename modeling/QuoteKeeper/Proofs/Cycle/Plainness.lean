import QuoteKeeper.Proofs.Cycle.Course
import QuoteKeeper.Proofs.Dialogue.Plain

/-!
# A cycle is plain up to its report

Once it is known whether the feed is running, everything that a cycle does before its report is
plain. So its only notice is the one that the report sends, and its result is told by the answers to
its calls and by the reference prices.
-/

namespace QuoteKeeper

open Dialogue

namespace Reading

theorem book_plain (p : Pair) : Plain (book p) := by
  refine (plain_call _).bind fun bid => ?_
  cases bid with
  | error e => exact plain_pure _
  | ok bid =>
    refine (plain_call _).bind fun ask => ?_
    cases ask with
    | error e => exact plain_pure _
    | ok ask => exact plain_pure _

theorem ofReference_plain (p : Pair) (q : BidAsk) : Plain (ofReference p q) := by
  refine (book_plain p).bind fun read => ?_
  cases read with
  | error e => exact (plain_log _).bind fun _ => plain_pure _
  | ok b => exact plain_pure _

theorem ofPair_plain (p : Pair) : Plain (ofPair p) := by
  refine (plain_reference p).bind fun r => ?_
  cases r with
  | none => exact (plain_log _).bind fun _ => plain_pure _
  | some q =>
    dsimp only
    split
    · exact ofReference_plain p q
    · exact (plain_log _).bind fun _ => plain_pure _

theorem ofPairs_plain (pairs : List Pair) : Plain (ofPairs pairs) := by
  induction pairs with
  | nil => exact plain_pure _
  | cons p rest ih => exact (ofPair_plain p).bind fun _ => ih.bind fun _ => plain_pure _

end Reading

namespace OpenOrders

theorem logIgnored_plain (managed : List Pair) (orders : List RestingOrder) :
    Plain (logIgnored managed orders) := by
  induction orders with
  | nil => exact plain_pure _
  | cons o rest ih =>
    rw [logIgnored]
    split
    · exact ih
    · exact (plain_log _).bind fun _ => ih

theorem read_plain (managed : List Pair) : Plain (read managed) := by
  refine (plain_call _).bind fun reply => ?_
  cases reply with
  | error e => exact plain_pure _
  | ok orders =>
    refine Plain.bind ?_ fun _ => plain_pure _
    exact (logIgnored_plain managed orders).bind fun _ => plain_pure _

end OpenOrders

namespace CancelPlan

theorem logUnjudged_plain (pairs : List Pair) : Plain (logUnjudged pairs) := by
  induction pairs with
  | nil => exact plain_pure _
  | cons p rest ih => exact (plain_log _).bind fun _ => ih

end CancelPlan

namespace Batch

theorem withdraw_plain (w : Withdrawal) : Plain (withdraw w) := by
  refine (plain_log _).bind fun _ => (plain_call _).bind fun reply => ?_
  cases reply with
  | error e => exact (plain_log _).bind fun _ => plain_pure _
  | ok u => exact plain_pure _

theorem withdrawAll_plain (ws : List Withdrawal) : Plain (withdrawAll ws) := by
  induction ws with
  | nil => exact plain_pure _
  | cons w rest ih => exact (withdraw_plain w).bind fun _ => ih.bind fun _ => plain_pure _

theorem placeOne_plain (c : Candidate) : Plain (placeOne c) := by
  refine (plain_call _).bind fun reply => ?_
  cases reply with
  | error e => exact (plain_log _).bind fun _ => plain_pure _
  | ok id => exact (plain_log _).bind fun _ => plain_pure _

theorem placeAll_plain (cs : List Candidate) : Plain (placeAll cs) := by
  induction cs with
  | nil => exact plain_pure _
  | cons c rest ih => exact (placeOne_plain c).bind fun _ => ih.bind fun _ => plain_pure _

theorem place_plain (batch : List Candidate) : Plain (place batch) := by
  rw [place]
  split
  · exact plain_pure _
  · refine (plain_call _).bind fun reply => ?_
    cases reply with
    | error e => exact (plain_log _).bind fun _ => plain_pure _
    | ok adjusted =>
      dsimp only
      split
      · exact (plain_log _).bind fun _ => plain_pure _
      · split
        · exact (plain_log _).bind fun _ => plain_pure _
        · exact placeAll_plain adjusted

end Batch

namespace Proposal

theorem without_plain (line : LogLine) (o : SideOutcome) : Plain (without line o) :=
  (plain_log line).bind fun _ => plain_pure o

theorem accept_plain (c : Candidate) (best boundary : Decimal) : Plain (accept c best boundary) :=
  (plain_log _).bind fun _ => plain_pure _

theorem buySide_plain (settings : Settings) (p : Pair) (boundary bid target : Decimal) :
    Plain (buySide settings p boundary bid target) := by
  rw [buySide]
  split
  · exact without_plain _ _
  · exact without_plain _ _
  · rw [buyAt]
    split
    · exact without_plain _ _
    · refine (plain_call _).bind fun reply => ?_
      cases reply with
      | error e => exact without_plain _ _
      | ok available =>
        dsimp only
        split
        · exact without_plain _ _
        · exact accept_plain _ _ _

theorem sellSide_plain (settings : Settings) (p : Pair) (boundary ask target : Decimal) :
    Plain (sellSide settings p boundary ask target) := by
  rw [sellSide]
  split
  · exact without_plain _ _
  · exact without_plain _ _
  · refine (plain_call _).bind fun reply => ?_
    cases reply with
    | error e => exact without_plain _ _
    | ok amount =>
      dsimp only
      split
      · exact without_plain _ _
      · exact accept_plain _ _ _

theorem buyTurn_plain (settings : Settings) (p : Pair) (orders : OpenOrders)
    (buyMax bid target : Decimal) : Plain (buyTurn settings p orders buyMax bid target) := by
  rw [buyTurn]
  split
  · exact without_plain _ _
  · split
    · exact plain_pure _
    · exact buySide_plain settings p buyMax bid target

theorem sellTurn_plain (settings : Settings) (p : Pair) (orders : OpenOrders)
    (sellMin ask target : Decimal) : Plain (sellTurn settings p orders sellMin ask target) := by
  rw [sellTurn]
  split
  · exact without_plain _ _
  · exact sellSide_plain settings p sellMin ask target

theorem outcome_plain (settings : Settings) (p : Pair) (prices : PairPrices) (orders : OpenOrders)
    (cooldown : Cooldown) (now : Instant) :
    Plain (outcome settings p prices orders cooldown now) := by
  rw [outcome]
  split
  · exact plain_pure _
  · split
    · exact plain_pure _
    · rw [withBook]
      split
      · exact (plain_log _).bind fun _ => plain_pure _
      · exact (plain_log _).bind fun _ => plain_pure _
      · split
        · exact (plain_log _).bind fun _ => plain_pure _
        · rw [sides_eq]
          refine (buyTurn_plain settings p orders _ _ _).bind fun buy => ?_
          exact (sellTurn_plain settings p orders _ _ _).bind fun sell => plain_pure _

end Proposal

namespace Progress

variable (settings : Settings) (prices : Prices) (orders : OpenOrders) (now : Instant)

theorem cancelPhase_plain (reason : CancelReason) (plan : CancelPlan) (s : Progress) :
    Plain (cancelPhase reason plan now s) := by
  refine (CancelPlan.logUnjudged_plain plan.unjudged).bind fun _ => ?_
  exact (Batch.withdrawAll_plain plan.withdrawals).bind fun _ => plain_pure _

theorem propose_plain (pairs : List Pair) (cooldown : Cooldown) :
    Plain (propose settings prices orders now pairs cooldown) := by
  induction pairs generalizing cooldown with
  | nil => exact plain_pure _
  | cons p rest ih =>
    rw [propose]
    split
    · exact ih cooldown
    · refine (Proposal.outcome_plain settings p _ orders cooldown now).bind fun o => ?_
      dsimp only
      split
      · exact (ih _).bind fun pass => plain_pure _
      · exact plain_pure _

theorem phase_plain (p : Phase) (s : Progress) :
    Plain (phase settings prices orders now p s) := by
  cases p with
  | cancelUnprofitable | cancelOutbid => exact cancelPhase_plain now _ _ s
  | propose =>
    refine Plain.bind ?_ fun _ => plain_pure _
    refine (propose_plain settings prices orders now settings.pairs s.cooldown).bind fun pass => ?_
    exact (Batch.place_plain pass.batch).bind fun _ => plain_pure _
  | blocked reason | done => exact plain_pure _

theorem phasesFrom_plain (p : Phase) (s : Progress) :
    Plain (phasesFrom settings prices orders now p s) := by
  by_cases ended : p.isTerminal = true
  · rw [phasesFrom_end settings prices orders now ended]
    exact plain_pure _
  · rw [phasesFrom_next settings prices orders now (Bool.eq_false_iff.mpr ended)]
    refine (phase_plain settings prices orders now p s).bind fun r => ?_
    exact phasesFrom_plain (p.advance r.1) r.2
termination_by p.rank
decreasing_by exact Phase.rank_advance_lt p _ (Bool.eq_false_iff.mpr ended)

theorem conclude_plain (p : Phase) (s : Progress) : Plain (conclude p s) := by
  cases p with
  | blocked reason => exact (plain_log _).bind fun _ => plain_pure _
  | cancelUnprofitable | cancelOutbid | propose | done => exact plain_pure _

theorem withFeed_plain (cycle : Nat) (cooldown : Cooldown) :
    Plain (withFeed settings cycle cooldown now) := by
  refine (OpenOrders.read_plain settings.pairs).bind fun read => ?_
  cases read with
  | error e => exact (plain_log _).bind fun _ => plain_pure _
  | ok orders =>
    refine ((Reading.ofPairs_plain settings.pairs).map _).bind fun prices => ?_
    refine (phasesFrom_plain settings prices orders now _ _).bind fun r => ?_
    exact conclude_plain r.1 r.2

/-- What a cycle does once it is known whether the feed is running. -/
def afterFeed (cycle : Nat) (cooldown : Cooldown) (on : Bool) : Dialogue Progress :=
  if on then
    withFeed settings cycle cooldown now
  else do
    startFeed
    log (.info s!"📡 Price feed not running; started it, skipping cycle {cycle}")
    return { summary := { cycle, outcome := .feedStarting }, cooldown }

theorem ofCycle_path_iff {cycle : Nat} {cooldown : Cooldown} {t : Transcript} {s : Progress} :
    Path (ofCycle settings cycle cooldown now) t s ↔
      ∃ on rest, t = ⟨.feedRunning, on⟩ :: rest ∧
        Path (afterFeed settings now cycle cooldown on) rest s :=
  path_feedRunning_iff

theorem afterFeed_plain (cycle : Nat) (cooldown : Cooldown) (on : Bool) :
    Plain (afterFeed settings now cycle cooldown on) := by
  cases on with
  | true => exact withFeed_plain settings now cycle cooldown
  | false =>
    refine plain_startFeed.bind fun _ => ?_
    exact (plain_log _).bind fun _ => plain_pure _

variable {settings now}

theorem ofCycle_notices {cycle : Nat} {cooldown : Cooldown} {t : Transcript} {s : Progress}
    (path : Path (ofCycle settings cycle cooldown now) t s) : t.notices = [] := by
  obtain ⟨on, rest, rfl, goesOn⟩ := (ofCycle_path_iff settings now).mp path
  have silent := (afterFeed_plain settings now cycle cooldown on).notices goesOn
  exact silent

theorem ofCycle_feed {cycle : Nat} {cooldown : Cooldown} {t : Transcript} {s : Progress}
    (path : Path (ofCycle settings cycle cooldown now) t s) (rest : Transcript) :
    Transcript.feed? (t ++ rest) = t.feed? := by
  obtain ⟨on, after, rfl, -⟩ := (ofCycle_path_iff settings now).mp path
  rfl

/-- Two ways for a cycle to go are one if the feed runs in both or in neither, the venue answers
alike, and the reference prices are the same. -/
theorem ofCycle_unique {cycle : Nat} {cooldown : Cooldown} {t t' : Transcript} {s s' : Progress}
    (path : Path (ofCycle settings cycle cooldown now) t s)
    (path' : Path (ofCycle settings cycle cooldown now) t' s') (feed : t'.feed? = t.feed?)
    (answers : SameAnswers t.calls t'.calls)
    (told : SameReferences t.references t'.references) : t' = t ∧ s' = s := by
  obtain ⟨on, rest, rfl, goesOn⟩ := (ofCycle_path_iff settings now).mp path
  obtain ⟨on', rest', rfl, goesOn'⟩ := (ofCycle_path_iff settings now).mp path'
  obtain rfl : on' = on := Option.some.inj feed
  have plain := afterFeed_plain settings now cycle cooldown on'
  obtain ⟨rfl, result⟩ := plain.unique goesOn goesOn' answers told
  exact ⟨rfl, result⟩

end Progress

end QuoteKeeper
