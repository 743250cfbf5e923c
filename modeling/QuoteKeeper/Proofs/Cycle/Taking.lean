import QuoteKeeper.Proofs.Cycle.Course
import QuoteKeeper.Proofs.Dialogue.Plain

/-!
# Every course can be taken

The courses of the parts of a cycle say no more than what can happen: whatever calls and results one
of them allows, there is a path with these calls to this result.
-/

namespace QuoteKeeper

open Dialogue

namespace Proposal

theorem goes_without (line : LogLine) (o : SideOutcome) : Goes (without line o) [] o :=
  .log (goes_pure o)

theorem goes_accept (c : Candidate) (best boundary : Decimal) :
    Goes (accept c best boundary) [] (.order c) :=
  .log (goes_pure _)

theorem BuyCourse.goes {settings : Settings} {p : Pair} {boundary bid target : Decimal}
    {o : SideOutcome} {calls : List Exchange}
    (course : BuyCourse settings p boundary bid target o calls) :
    Goes (buySide settings p boundary bid target) calls o := by
  cases course with
  | noPrice plan | tooFar plan =>
    simp only [buySide, plan]
    exact goes_without _ _
  | noAmount plan unusable =>
    simp only [buySide, plan, buyAt, unusable]
    exact goes_without _ _
  | unread plan size e =>
    simp only [buySide, plan, buyAt, size]
    exact .call (.error e) (goes_without _ _)
  | @noFunds price amount available plan size short =>
    simp only [buySide, plan, buyAt, size]
    refine Goes.call (c := .balance p.quote) (.ok available) ?_
    simp only [short, if_true]
    exact goes_without _ _
  | @order price amount available plan size enough =>
    simp only [buySide, plan, buyAt, size]
    refine Goes.call (c := .balance p.quote) (.ok available) ?_
    simp only [enough, if_false]
    exact goes_accept _ _ _

theorem SellCourse.goes {settings : Settings} {p : Pair} {boundary ask target : Decimal}
    {o : SideOutcome} {calls : List Exchange}
    (course : SellCourse settings p boundary ask target o calls) :
    Goes (sellSide settings p boundary ask target) calls o := by
  cases course with
  | noPrice plan | tooFar plan =>
    simp only [sellSide, plan]
    exact goes_without _ _
  | unread plan e =>
    simp only [sellSide, plan, sellAt]
    exact .call (.error e) (goes_without _ _)
  | @noFunds price amount plan short =>
    simp only [sellSide, plan, sellAt]
    refine Goes.call (c := .balance p.base) (.ok amount) ?_
    simp only [short, if_true]
    exact goes_without _ _
  | @order price amount plan enough =>
    simp only [sellSide, plan, sellAt]
    refine Goes.call (c := .balance p.base) (.ok amount) ?_
    simp only [enough, if_false]
    exact goes_accept _ _ _

theorem BuySideCourse.goes {settings : Settings} {p : Pair} {orders : OpenOrders}
    {boundary bid target : Decimal} {o : SideOutcome} {calls : List Exchange}
    (course : BuySideCourse settings p orders boundary bid target o calls) :
    Goes (buyTurn settings p orders boundary bid target) calls o := by
  cases course with
  | resting taken =>
    rw [buyTurn, if_pos taken]
    exact goes_without _ _
  | excluded free paused =>
    rw [buyTurn, if_neg (Bool.eq_false_iff.mp free), if_pos paused]
    exact goes_pure _
  | looked free bought course =>
    rw [buyTurn, if_neg (Bool.eq_false_iff.mp free), if_neg (Bool.eq_false_iff.mp bought)]
    exact course.goes

theorem SellSideCourse.goes {settings : Settings} {p : Pair} {orders : OpenOrders}
    {boundary ask target : Decimal} {o : SideOutcome} {calls : List Exchange}
    (course : SellSideCourse settings p orders boundary ask target o calls) :
    Goes (sellTurn settings p orders boundary ask target) calls o := by
  cases course with
  | resting taken =>
    rw [sellTurn, if_pos taken]
    exact goes_without _ _
  | looked free course =>
    rw [sellTurn, if_neg (Bool.eq_false_iff.mp free)]
    exact course.goes

theorem Course.goes {settings : Settings} {p : Pair} {prices : PairPrices} {orders : OpenOrders}
    {cooldown : Cooldown} {now : Instant} {o : PairOutcome} {calls : List Exchange}
    (course : Course settings p prices orders cooldown now o calls) :
    Goes (outcome settings p prices orders cooldown now) calls o := by
  cases course with
  | waiting early =>
    rw [outcome, if_pos early]
    exact goes_pure _
  | noBook due missing =>
    simp only [outcome, due, missing]
    exact goes_pure _
  | noBoundary due known unusable =>
    rw [buyBoundary?, sellBoundary?] at unusable
    simp only [outcome, due, known, withBook, Bool.false_eq_true, if_false]
    split
    next => exact .log (goes_pure _)
    next => exact .log (goes_pure _)
    next highest lowest =>
      rw [highest, lowest] at unusable
      rcases unusable with missing | missing
      · cases missing
      · cases missing
  | noSize due known highest lowest unsized =>
    rw [buyBoundary?] at highest
    rw [sellBoundary?] at lowest
    simp only [outcome, due, known, withBook, highest, lowest, unsized]
    exact .log (goes_pure _)
  | @sides book buyMax sellMin target buy sell _ _ due known highest lowest sized bought sold =>
    rw [buyBoundary?] at highest
    rw [sellBoundary?] at lowest
    simp only [outcome, due, known, withBook, highest, lowest, sized, sides_eq]
    exact bought.goes.bind (.last (f := PairOutcome.sides buy) sold.goes)

end Proposal

namespace Reading

theorem path_valid {p : Pair} {q : BidAsk} (valid : q.isValid = true) {reading : Reading}
    {calls : List Exchange} (goes : Goes (ofReference p q) calls reading) :
    ∃ t : Transcript, Path (ofPair p) t reading ∧ t.references = [(p, some q)] ∧
      t.calls = calls := by
  obtain ⟨u, path, made⟩ := goes
  refine ⟨⟨.reference p, some q⟩ :: u, path_reference_iff.mpr ⟨some q, u, rfl, ?_⟩, ?_, made⟩
  · simp only [valid, if_true]
    exact path
  · rw [Transcript.references_reference, (ofReference_course valid path).1]

theorem Course.path {p : Pair} {r : Option BidAsk} {reading : Reading} {calls : List Exchange}
    (course : Course p r reading calls) :
    ∃ t : Transcript, Path (ofPair p) t reading ∧ t.references = [(p, r)] ∧ t.calls = calls := by
  cases course with
  | stale invalid =>
    refine ⟨[⟨.reference p, r⟩, ⟨.log (staleLine p r), ()⟩],
      path_reference_iff.mpr ⟨r, _, rfl, ?_⟩, rfl, rfl⟩
    cases r with
    | none => exact .act (.done none)
    | some q =>
      rw [Option.any_some] at invalid
      simp only [invalid, Bool.false_eq_true, if_false]
      exact .act (.done none)
  | noBid valid e =>
    apply path_valid valid
    exact (Goes.call (c := .topOfBook p .buy) (.error e) (goes_pure _)).bind (.log (goes_pure _))
  | noAsk valid bid e =>
    apply path_valid valid
    have reads : Goes (book p)
        [⟨.topOfBook p .buy, .ok bid⟩, ⟨.topOfBook p .sell, .error e⟩]
        (.error (.venueCall "top_of_book" e)) := by
      refine Goes.call (c := .topOfBook p .buy) (.ok bid) ?_
      exact Goes.call (c := .topOfBook p .sell) (.error e) (goes_pure _)
    exact reads.bind (.log (goes_pure _))
  | whole valid bid ask =>
    apply path_valid valid
    have reads : Goes (book p)
        [⟨.topOfBook p .buy, .ok bid⟩, ⟨.topOfBook p .sell, .ok ask⟩] (.ok { bid, ask }) := by
      refine Goes.call (c := .topOfBook p .buy) (.ok bid) ?_
      exact Goes.call (c := .topOfBook p .sell) (.ok ask) (goes_pure _)
    exact reads.bind (goes_pure _)

theorem Courses.path {asked : List (Pair × Option BidAsk)} {readings : List (Pair × Reading)}
    {calls : List Exchange} (courses : Courses asked readings calls) :
    ∃ t : Transcript, Path (ofPairs (asked.map (·.1))) t readings ∧ t.references = asked ∧
      t.calls = calls := by
  induction courses with
  | nil => exact ⟨[], .done [], rfl, rfl⟩
  | @cons p r reading calls more asked readings head tail ih =>
    obtain ⟨first, reads, told, made⟩ := head.path
    obtain ⟨second, others, told', made'⟩ := ih
    refine ⟨first ++ (second ++ []), ?_, ?_, ?_⟩
    · apply path_bind_iff.mpr
      refine ⟨first, reading, second ++ [], rfl, reads, ?_⟩
      exact path_bind_iff.mpr ⟨second, readings, [], rfl, others, .done _⟩
    · rw [List.append_nil, Transcript.references_append, told, told']
      rfl
    · rw [List.append_nil, Transcript.calls_append, made, made']

end Reading

namespace Batch

theorem goes_withdraw (w : Withdrawal) :
    Goes (withdraw w) [⟨.cancel w.order.pair w.order.id, .ok ()⟩] (.ok ()) := by
  apply Goes.log
  exact .call (c := .cancel w.order.pair w.order.id) (.ok ()) (goes_pure _)

theorem goes_withdraw_error (w : Withdrawal) (e : CallError) :
    Goes (withdraw w) [⟨.cancel w.order.pair w.order.id, .error e⟩]
      (.error (.venueCall "cancel" e)) := by
  apply Goes.log
  exact .call (c := .cancel w.order.pair w.order.id) (.error e) (.log (goes_pure _))

theorem Canceled.goes {ws : List Withdrawal} {calls : List Exchange} {failed : Nat}
    (canceled : Canceled ws calls failed) : Goes (withdrawAll ws) calls failed := by
  induction canceled with
  | nil => exact goes_pure 0
  | @done w ws calls n rest ih => exact (goes_withdraw w).bind (.last ih)
  | @failed w ws calls n e rest ih =>
    exact (goes_withdraw_error w e).bind (.last (f := fun failed => failed + 1) ih)

theorem goes_placeOne (c : Candidate) (id : OrderId) :
    Goes (placeOne c) [⟨.place c, .ok id⟩] (some id) :=
  Goes.call (c := .place c) (.ok id) (.log (goes_pure _))

theorem goes_placeOne_error (c : Candidate) (e : CallError) :
    Goes (placeOne c) [⟨.place c, .error e⟩] none :=
  Goes.call (c := .place c) (.error e) (.log (goes_pure _))

theorem Placed.goes {cs : List Candidate} {result : BatchResult} {calls : List Exchange}
    (placed : Placed cs result calls) : Goes (placeAll cs) calls result := by
  induction placed with
  | nil => exact goes_pure _
  | @done c cs result calls id rest ih => exact (goes_placeOne c id).bind (.last ih)
  | @failed c cs result calls e rest ih => exact (goes_placeOne_error c e).bind (.last ih)

theorem Course.goes {batch : List Candidate} {result : BatchResult} {calls : List Exchange}
    (course : Course batch result calls) : Goes (place batch) calls result := by
  cases course with
  | empty nothing =>
    rw [place, if_pos (List.isEmpty_iff.mpr nothing)]
    exact goes_pure _
  | unchecked nonempty e =>
    simp only [place, List.isEmpty_eq_false_iff.mpr nonempty, Bool.false_eq_true, if_false]
    exact Goes.call (c := .budgetAdjust batch true) (.error e) (.log (goes_pure _))
  | @rejected adjusted nonempty cut =>
    simp only [place, List.isEmpty_eq_false_iff.mpr nonempty, Bool.false_eq_true, if_false]
    refine Goes.call (c := .budgetAdjust batch true) (.ok adjusted) ?_
    dsimp only
    split
    · exact .log (goes_pure _)
    · exact .log (goes_pure _)
  | @placed adjusted result calls nonempty whole all =>
    simp only [place, List.isEmpty_eq_false_iff.mpr nonempty, Bool.false_eq_true, if_false]
    refine Goes.call (c := .budgetAdjust batch true) (.ok adjusted) ?_
    have found : adjusted.isEmpty = false := by
      apply List.isEmpty_eq_false_iff.mpr
      rintro rfl
      exact nonempty (List.length_eq_zero_iff.mp whole.symm)
    simp only [found, whole, ne_eq, not_true_eq_false, Bool.false_eq_true, if_false]
    exact all.goes

end Batch

namespace Progress

variable {settings : Settings} {prices : Prices} {orders : OpenOrders} {now : Instant}

theorem PassCourse.goes {pairs : List Pair} {cooldown : Cooldown} {pass : Pass}
    {calls : List Exchange}
    (course : PassCourse settings prices orders now pairs cooldown pass calls) :
    Goes (propose settings prices orders now pairs cooldown) calls pass := by
  induction course with
  | nil => exact goes_pure _
  | unpriced missing tail ih =>
    rw [propose, missing]
    exact ih
  | @without p rest cooldown pass o q calls more known head nothing tail ih =>
    have idle : o.candidates.isEmpty = true := List.isEmpty_iff.mpr nothing
    simp only [propose, known]
    apply head.goes.bind
    simp only [Proposal.stamp, idle, if_true]
    exact .last ih
  | @accepted p rest cooldown o q calls known head nonempty =>
    have found : o.candidates.isEmpty = false := List.isEmpty_eq_false_iff.mpr nonempty
    simp only [propose, known]
    rw [← List.append_nil calls]
    apply head.goes.bind
    simp only [Proposal.stamp, found, Bool.false_eq_true, if_false]
    exact goes_pure _

theorem goes_logUnjudged (pairs : List Pair) : Goes (CancelPlan.logUnjudged pairs) [] () := by
  induction pairs with
  | nil => exact goes_pure _
  | cons p rest ih => exact .log ih

theorem goes_cancelPhase (reason : CancelReason) {plan : CancelPlan} (s : Progress)
    {calls : List Exchange} {failed : Nat}
    (canceled : Batch.Canceled plan.withdrawals calls failed) :
    Goes (cancelPhase reason plan now s) calls
      (plan.withdrawals.length, s.withCancels reason plan now failed) :=
  (goes_logUnjudged plan.unjudged).bind (.last canceled.goes)

theorem goes_cancelPhase_idle (reason : CancelReason) {plan : CancelPlan} (s : Progress)
    (nothing : plan.withdrawals = []) :
    Goes (cancelPhase reason plan now s) [] (0, s.withCancels reason plan now 0) := by
  have idle : Batch.Canceled plan.withdrawals [] 0 := by
    rw [nothing]
    exact .nil
  have goes : Goes (cancelPhase reason plan now s) []
      (plan.withdrawals.length, s.withCancels reason plan now 0) := goes_cancelPhase reason s idle
  rwa [nothing, List.length_nil] at goes

/-- The phases end after one that has acted. -/
theorem goes_blocked (reason : CancelReason) (s : Progress) :
    Goes (phasesFrom settings prices orders now (.blocked reason) s) [] (.blocked reason, s) := by
  rw [phasesFrom_end settings prices orders now rfl]
  exact goes_pure _

theorem goes_proposing {s : Progress} {pass : Pass} {result : BatchResult}
    {balances calls : List Exchange}
    (passed : PassCourse settings prices orders now settings.pairs s.cooldown pass balances)
    (placed : Batch.Course pass.batch result calls) :
    Goes (phasesFrom settings prices orders now .propose s) (balances ++ calls)
      (.done, s.withBatch pass result) := by
  rw [phasesFrom_next settings prices orders now rfl]
  have proposes : Goes (proposePhase settings prices orders now s) (balances ++ calls)
      (s.withBatch pass result) := passed.goes.bind (.last placed.goes)
  rw [← List.append_nil (balances ++ calls)]
  refine (Goes.last (f := fun s => (0, s)) proposes).bind ?_
  rw [phasesFrom_end settings prices orders now rfl]
  exact goes_pure _

theorem PhasesCourse.goes {s s' : Progress} {p : Phase} {calls : List Exchange}
    (phases : PhasesCourse settings prices orders now s p s' calls) :
    Goes (phasesFrom settings prices orders now .cancelUnprofitable s) calls (p, s') := by
  rw [phasesFrom_next settings prices orders now rfl]
  have second := fun s => phasesFrom_next settings prices orders now (p := .cancelOutbid) rfl s
  cases phases with
  | unprofitable nonempty canceled =>
    rw [← List.append_nil calls]
    refine (goes_cancelPhase .unprofitable s canceled).bind ?_
    simp only [Phase.advance, List.length_pos_iff.mpr nonempty, if_true]
    exact goes_blocked _ _
  | outbid nothing nonempty canceled =>
    refine (goes_cancelPhase_idle .unprofitable s nothing).bind ?_
    simp only [Phase.advance, Nat.lt_irrefl, if_false, second]
    rw [← List.append_nil calls]
    refine (goes_cancelPhase .outbid _ canceled).bind ?_
    simp only [List.length_pos_iff.mpr nonempty, if_true]
    exact goes_blocked _ _
  | @proposed pass result balances calls nothing nothing' passed placed =>
    refine (goes_cancelPhase_idle .unprofitable s nothing).bind ?_
    simp only [Phase.advance, Nat.lt_irrefl, if_false, second]
    refine (goes_cancelPhase_idle .outbid _ nothing').bind ?_
    simp only [Nat.lt_irrefl, if_false]
    apply goes_proposing _ placed
    rw [withCancels_cooldown nothing', withCancels_cooldown nothing]
    exact passed

theorem goes_logIgnored (managed : List Pair) (orders : List RestingOrder) :
    Goes (OpenOrders.logIgnored managed orders) [] () := by
  induction orders with
  | nil => exact goes_pure _
  | cons o rest ih =>
    rw [OpenOrders.logIgnored]
    split
    · exact ih
    · exact .log ih

theorem openOrders_path (managed : List Pair) (orders : List RestingOrder) :
    ∃ t : Transcript, Path (OpenOrders.read managed) t (.ok ⟨managed, orders⟩) ∧
      t.references = [] ∧ t.calls = [⟨.openOrders, .ok orders⟩] := by
  obtain ⟨u, ignores, -⟩ := goes_logIgnored managed orders
  have quiet := logIgnored_quiet ignores
  refine ⟨⟨.call .openOrders, .ok orders⟩ :: (u ++ [] ++ []), ?_, ?_, ?_⟩
  · apply path_call_iff.mpr
    refine ⟨.ok orders, _, rfl, path_bind_iff.mpr ⟨u ++ [], ⟨managed, orders⟩, [], rfl, ?_, ?_⟩⟩
    · exact path_bind_iff.mpr ⟨u, (), [], rfl, ignores, .done _⟩
    · exact .done _
  · simp [quiet.2]
  · simp [quiet.1]

theorem conclude_goes (p : Phase) (s : Progress) : Goes (conclude p s) [] (s.concluded p) := by
  cases p with
  | blocked reason => exact .log (goes_pure _)
  | cancelUnprofitable | cancelOutbid | propose | done => exact goes_pure _

variable (settings now)

theorem starting_path (cycle : Nat) (cooldown : Cooldown) :
    ∃ t : Transcript, Path (ofCycle settings cycle cooldown now) t
        { summary := { cycle, outcome := .feedStarting }, cooldown } ∧
      t.feed? = some false ∧ t.references = [] ∧ t.calls = [] :=
  ⟨[⟨.feedRunning, false⟩, ⟨.startFeed, ()⟩, ⟨.log _, ()⟩], .act (.act (.act (.done _))), rfl, rfl,
    rfl⟩

theorem aborted_path (cycle : Nat) (cooldown : Cooldown) (e : CallError) :
    ∃ t : Transcript, Path (ofCycle settings cycle cooldown now) t
        { summary :=
            { cycle
              outcome := .aborted (Failure.venueCall "open_orders" e).message
              externalFailures := 1 }
          cooldown } ∧
      t.feed? = some true ∧ t.references = [] ∧ t.calls = [⟨.openOrders, .error e⟩] :=
  ⟨[⟨.feedRunning, true⟩, ⟨.call .openOrders, .error e⟩, ⟨.log _, ()⟩],
    .act (.act (.act (.done _))), rfl, rfl, rfl⟩

variable {settings now}

theorem ran_path {cycle : Nat} {cooldown : Cooldown} {orders : List RestingOrder}
    {asked : List (Pair × Option BidAsk)} {readings : List (Pair × Reading)}
    {reads calls : List Exchange} {p : Phase} {s : Progress}
    (order : asked.map (·.1) = settings.pairs) (read : Reading.Courses asked readings reads)
    (phases : PhasesCourse settings (Prices.ofReadings readings) ⟨settings.pairs, orders⟩ now
      { summary := opening cycle (Prices.ofReadings readings), cooldown } p s calls) :
    ∃ t : Transcript, Path (ofCycle settings cycle cooldown now) t (s.concluded p) ∧
      t.feed? = some true ∧ t.references = asked ∧
      t.calls = ⟨.openOrders, .ok orders⟩ :: (reads ++ calls) := by
  obtain ⟨first, opens, unasked, opened⟩ := openOrders_path settings.pairs orders
  obtain ⟨second, collects, told, collected⟩ := read.path
  obtain ⟨third, goes, went⟩ := phases.goes
  obtain ⟨fourth, ends, -⟩ := conclude_goes p s
  rw [order] at collects
  refine ⟨⟨.feedRunning, true⟩ :: (first ++ (second ++ (third ++ fourth))), ?_, rfl, ?_, ?_⟩
  · apply path_feedRunning_iff.mpr
    refine ⟨true, _, rfl, path_bind_iff.mpr ⟨first, _, _, rfl, opens, ?_⟩⟩
    refine path_bind_iff.mpr ⟨second, _, _, rfl, path_map_iff.mpr ⟨readings, collects, rfl⟩, ?_⟩
    exact path_bind_iff.mpr ⟨third, _, _, rfl, goes, ends⟩
  · simp [unasked, told, (phases_course goes).1, (conclude_path ends).1.2]
  · simp [opened, collected, went, (conclude_path ends).1.1]

end Progress

end QuoteKeeper
