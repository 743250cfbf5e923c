import QuoteKeeper.Proofs.Cycle.Breaches

/-!
# What a cycle makes of the action times

A cycle with candidates for a pair begins a new interval there, whatever becomes of the candidates,
and it has none before the last interval is over. A cycle that cancels on a pair keeps its time for
that pair, whatever becomes of the calls. Nothing else changes an action time.
-/

namespace QuoteKeeper

namespace Transcript

/-- There are candidates for the pair. All candidates of a cycle are checked against the budget
before anything else becomes of them, so that the batches show them. -/
def proposesOn (t : Transcript) (p : Pair) : Bool :=
  t.batches.any fun batch => batch.any fun c => decide (c.pair = p)

/-- An order on the pair is called to be canceled. -/
def cancelsOn (t : Transcript) (p : Pair) : Bool := t.cancels.any fun c => decide (c.1 = p)

theorem batch?_of_kind {x : Exchange} (kind : x.1.kind ≠ .budgetAdjust) : batch? x = none := by
  obtain ⟨c, r⟩ := x
  cases c with
  | budgetAdjust batch allOrNone => exact absurd rfl kind
  | openOrders | balance | topOfBook | place | cancel => rfl

theorem batches_eq_nil {calls : List Exchange} (others : ∀ x ∈ calls, x.1.kind ≠ .budgetAdjust) :
    calls.filterMap batch? = [] := by
  apply List.filterMap_eq_nil_iff.mpr
  intro x member
  exact batch?_of_kind (others x member)

end Transcript

namespace Cooldown

theorem lastOrder_recordOrder (c : Cooldown) (p : Pair) (now : Instant) (q : Pair) :
    (c.recordOrder p now).lastOrder q = if p = q then now else c.lastOrder q := by
  rw [lastOrder, recordOrder, Table.get?_set]
  split
  · rfl
  · rfl

theorem lastCancel?_recordCancel (c : Cooldown) (p : Pair) (now : Instant) (q : Pair) :
    (c.recordCancel p now).lastCancel? q = if p = q then some now else c.lastCancel? q :=
  Table.get?_set c.canceled p now q

/-- Cancels keep their own times and do not touch those of the orders. -/
theorem foldl_recordCancel (ws : List Withdrawal) (now : Instant) (c : Cooldown) (p : Pair) :
    (ws.foldl (fun c w => c.recordCancel w.order.pair now) c).lastOrder p = c.lastOrder p ∧
      (ws.foldl (fun c w => c.recordCancel w.order.pair now) c).lastCancel? p =
        if ws.any (fun w => decide (w.order.pair = p)) then some now else c.lastCancel? p := by
  induction ws generalizing c with
  | nil => exact ⟨rfl, rfl⟩
  | cons w ws ih =>
    obtain ⟨ordered, canceled⟩ := ih (c.recordCancel w.order.pair now)
    rw [List.foldl_cons, ordered, canceled, lastCancel?_recordCancel]
    constructor
    · rfl
    · by_cases here : w.order.pair = p
      · simp [here]
      · simp [here]

/-- A pair whose interval is over is not looked at before its end. -/
theorem ready_of_due {c : Cooldown} {p : Pair} {now : Instant} {interval : Span}
    (due : c.waits p now interval = false) : c.lastOrder p + interval ≤ now := by
  rw [waits, Instant.after?] at due
  split at due
  next ready found =>
    split at found
    · obtain rfl := Option.some.inj found
      simpa using due
    · exact nomatch found
  next => exact nomatch due

end Cooldown

namespace Batch

open Transcript

theorem Canceled.cancelsOn {ws : List Withdrawal} {calls : List Exchange} {failed : Nat}
    (canceled : Canceled ws calls failed) (p : Pair) :
    ((calls.filterMap canceled?).any fun c => decide (c.1 = p)) =
      ws.any fun w => decide (w.order.pair = p) := by
  rw [canceled.cancels]
  simp [Function.comp_def]

/-- A batch is checked as a whole and once, unless it is empty. -/
theorem Course.batches {batch : List Candidate} {result : BatchResult} {calls : List Exchange}
    (course : Course batch result calls) :
    calls.filterMap batch? = if batch = [] then [] else [batch] := by
  cases course with
  | empty nothing =>
    rw [if_pos nothing]
    rfl
  | unchecked nonempty | rejected nonempty =>
    rw [if_neg nonempty]
    rfl
  | placed nonempty whole all =>
    have others := batches_eq_nil (others_of_kind (b := .budgetAdjust) all.kind (by decide))
    rw [if_neg nonempty, List.filterMap_cons, others]
    rfl

/-- What is proposed on a pair is in the batch. -/
theorem Course.proposesOn {batch : List Candidate} {result : BatchResult} {calls : List Exchange}
    (course : Course batch result calls) (p : Pair) :
    ((calls.filterMap batch?).any fun b => b.any fun c => decide (c.pair = p)) =
      batch.any fun c => decide (c.pair = p) := by
  rw [course.batches]
  by_cases empty : batch = []
  · simp [empty]
  · simp [empty]

end Batch

namespace Progress

open Transcript

/-- A pass begins the interval of the pair that its batch is for, which was over, and of no
other. -/
theorem PassCourse.stamps {settings : Settings} {prices : Prices} {orders : OpenOrders}
    {now : Instant} {pairs : List Pair} {cooldown : Cooldown} {pass : Pass}
    {calls : List Exchange}
    (course : PassCourse settings prices orders now pairs cooldown pass calls) (q : Pair) :
    ((pass.batch.any fun c => decide (c.pair = q)) = true →
        cooldown.lastOrder q + settings.reorder ≤ now) ∧
      pass.cooldown.lastOrder q =
        (if pass.batch.any (fun c => decide (c.pair = q)) then now else cooldown.lastOrder q) ∧
      pass.cooldown.lastCancel? q = cooldown.lastCancel? q := by
  induction course with
  | nil => exact ⟨nofun, rfl, rfl⟩
  | unpriced missing tail ih => exact ih
  | without known head nothing tail ih => exact ih
  | @accepted p rest cooldown o pairPrices calls known head nonempty =>
    have onPair : ∀ c ∈ o.candidates, c.pair = p := fun c member =>
      (head.candidates.2 c member).pair_eq
    have due : cooldown.waits p now settings.reorder = false := by
      cases head with
      | waiting => exact absurd rfl nonempty
      | noBook due | noBoundary due | noSize due | sides due => exact due
    have proposed : (o.candidates.any fun c => decide (c.pair = q)) = decide (p = q) := by
      obtain ⟨c, member⟩ := List.exists_mem_of_ne_nil _ nonempty
      rw [Bool.eq_iff_iff, List.any_eq_true, decide_eq_true_iff]
      constructor
      · rintro ⟨d, listed, same⟩
        exact (onPair d listed).symm.trans (of_decide_eq_true same)
      · rintro rfl
        exact ⟨c, member, decide_eq_true (onPair c member)⟩
    rw [proposed, Cooldown.lastOrder_recordOrder]
    refine ⟨fun same => ?_, by simp, rfl⟩
    obtain rfl := of_decide_eq_true same
    exact Cooldown.ready_of_due due

/-- What becomes of the action times of a pair in a cycle with these calls. -/
structure Stamped (settings : Settings) (now : Instant) (p : Pair) (proposes cancels : Bool)
    (before after : Cooldown) : Prop where
  ready : proposes = true → before.lastOrder p + settings.reorder ≤ now
  ordered : after.lastOrder p = if proposes then now else before.lastOrder p
  canceled : after.lastCancel? p = if cancels then some now else before.lastCancel? p

/-- Nothing happens to the times of a pair on which nothing is proposed and nothing canceled. -/
theorem Stamped.refl (settings : Settings) (now : Instant) (p : Pair) (cooldown : Cooldown) :
    Stamped settings now p false false cooldown cooldown :=
  ⟨nofun, rfl, rfl⟩

theorem withCancels_stamped {settings : Settings} {now : Instant} {reason : CancelReason}
    {plan : CancelPlan} {failed : Nat} (s : Progress) (p : Pair) :
    Stamped settings now p false (plan.withdrawals.any fun w => decide (w.order.pair = p))
      s.cooldown (s.withCancels reason plan now failed).cooldown := by
  obtain ⟨ordered, canceled⟩ := Cooldown.foldl_recordCancel plan.withdrawals now s.cooldown p
  exact ⟨nofun, ordered, canceled⟩

theorem PhasesCourse.stamped {settings : Settings} {prices : Prices} {orders : OpenOrders}
    {now : Instant} {s s' : Progress} {p : Phase} {calls : List Exchange}
    (phases : PhasesCourse settings prices orders now s p s' calls) (q : Pair) :
    Stamped settings now q
      ((calls.filterMap batch?).any fun b => b.any fun c => decide (c.pair = q))
      ((calls.filterMap canceled?).any fun c => decide (c.1 = q)) s.cooldown s'.cooldown := by
  cases phases with
  | unprofitable nonempty canceled =>
    rw [batches_eq_nil (others_of_kind canceled.kind (by decide)), canceled.cancelsOn]
    exact withCancels_stamped s q
  | outbid nothing nonempty canceled =>
    rw [batches_eq_nil (others_of_kind canceled.kind (by decide)), canceled.cancelsOn]
    have untouched : (s.withCancels .unprofitable (CancelPlan.unprofitable settings prices orders)
        now 0).cooldown = s.cooldown := withCancels_cooldown nothing
    rw [← untouched]
    exact withCancels_stamped _ q
  | @proposed pass result balances calls nothing nothing' passed placed =>
    obtain ⟨ready, ordered, canceled⟩ := passed.stamps q
    rw [List.filterMap_append, List.filterMap_append,
      batches_eq_nil (others_of_kind passed.onlyBalances (by decide)),
      cancels_eq_nil (others_of_kind passed.onlyBalances (by decide)),
      cancels_eq_nil (placed.others (by decide) (by decide)), List.nil_append, placed.proposesOn]
    exact ⟨ready, ordered, canceled⟩

theorem concluded_cooldown (p : Phase) (s : Progress) : (s.concluded p).cooldown = s.cooldown := by
  cases p with
  | blocked reason => rfl
  | cancelUnprofitable | cancelOutbid | propose | done => rfl

/-- What a cycle makes of the action times of a pair. -/
theorem Course.stamped {settings : Settings} {cycle : Nat} {cooldown : Cooldown} {now : Instant}
    {t : Transcript} {s : Progress} (course : Course settings cycle cooldown now t s) (p : Pair) :
    Stamped settings now p (t.proposesOn p) (t.cancelsOn p) cooldown s.cooldown := by
  cases course with
  | starting feed quiet =>
    rw [proposesOn, cancelsOn, batches, cancels, quiet.1]
    exact .refl settings now p cooldown
  | aborted feed unasked made =>
    rw [proposesOn, cancelsOn, batches, cancels, made]
    exact .refl settings now p cooldown
  | @ran orders readings reads calls phase s feed made order read shown phases announced =>
    have looks : t.batches = calls.filterMap batch? ∧ t.cancels = calls.filterMap canceled? := by
      rw [batches, cancels, made, ← List.cons_append, List.filterMap_append, List.filterMap_append,
        List.filterMap_cons, List.filterMap_cons,
        batches_eq_nil (others_of_kind read.kind (by decide)),
        cancels_eq_nil (others_of_kind read.kind (by decide))]
      exact ⟨rfl, rfl⟩
    rw [proposesOn, cancelsOn, looks.1, looks.2, concluded_cooldown]
    exact phases.stamped p

end Progress

end QuoteKeeper
