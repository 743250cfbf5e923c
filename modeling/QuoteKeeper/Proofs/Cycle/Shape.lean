import QuoteKeeper.Proofs.Cycle.Plans
import QuoteKeeper.Proofs.Rehearsal.Serving

/-!
# The order of calls in a cycle

Which calls a cycle makes, and in which order, whatever comes back from them. Nothing is said about
prices or amounts: only which answers have to be there before a call is made.
-/

namespace QuoteKeeper

open Dialogue

/-- The calls for the books of the pairs with a valid reference: the bid, and the ask only after a
bid. -/
inductive BookReads : List (Pair × Option BidAsk) → List Exchange → Prop
  | nil : BookReads [] []
  | stale {p : Pair} {r : Option BidAsk} {asked : List (Pair × Option BidAsk)}
      {calls : List Exchange} (invalid : r.any BidAsk.isValid = false)
      (rest : BookReads asked calls) : BookReads ((p, r) :: asked) calls
  | bidFails {p : Pair} {q : BidAsk} {asked : List (Pair × Option BidAsk)}
      {calls : List Exchange} (valid : q.isValid = true) (e : CallError)
      (rest : BookReads asked calls) :
      BookReads ((p, some q) :: asked) (⟨.topOfBook p .buy, .error e⟩ :: calls)
  | bidRead {p : Pair} {q : BidAsk} {asked : List (Pair × Option BidAsk)}
      {calls : List Exchange} (valid : q.isValid = true) (bid : Decimal)
      (ask : (Call.topOfBook p .sell).Reply) (rest : BookReads asked calls) :
      BookReads ((p, some q) :: asked)
        (⟨.topOfBook p .buy, .ok bid⟩ :: ⟨.topOfBook p .sell, ask⟩ :: calls)

/-- What a cycle does once everything is read: cancels, all of them announced with the same reason,
or balances, then at most one check of the budget, and orders only if it has gone through. -/
inductive Acting (t : Transcript) : List Exchange → Prop
  | cancels {reason : CancelReason} {ws : List Withdrawal} {calls : List Exchange} {failed : Nat}
      (nonempty : ws ≠ []) (same : ∀ w ∈ ws, w.reason = reason)
      (announced : ∀ w ∈ ws, ⟨.log (Batch.withdrawLine w), ()⟩ ∈ t)
      (canceled : Batch.Canceled ws calls failed) : Acting t calls
  | looks {calls : List Exchange} (only : OnlyBalances calls) : Acting t calls
  | checks {balances : List Exchange} {batch : List Candidate} (only : OnlyBalances balances)
      (e : CallError) : Acting t (balances ++ [⟨.budgetAdjust batch true, .error e⟩])
  | places {balances calls : List Exchange} {batch adjusted : List Candidate}
      (only : OnlyBalances balances) (places : ∀ x ∈ calls, x.1.kind = .place) :
      Acting t (balances ++ ⟨.budgetAdjust batch true, .ok adjusted⟩ :: calls)

/-- The calls of a cycle over some pairs, as its transcript shows them. -/
inductive CycleShape (pairs : List Pair) (t : Transcript) : Prop
  | starting (feed : t.feed? = some false) (silent : t.calls = [])
  | aborted (feed : t.feed? = some true) {e : CallError}
      (only : t.calls = [⟨.openOrders, .error e⟩])
  | ran (feed : t.feed? = some true) {orders : List RestingOrder} {reads acts : List Exchange}
      (made : t.calls = ⟨.openOrders, .ok orders⟩ :: (reads ++ acts))
      (order : t.references.map (·.1) = pairs) (read : BookReads t.references reads)
      (acting : Acting t acts)

theorem Reading.Courses.bookReads {asked : List (Pair × Option BidAsk)}
    {readings : List (Pair × Reading)} {calls : List Exchange}
    (courses : Reading.Courses asked readings calls) : BookReads asked calls := by
  induction courses with
  | nil => exact .nil
  | cons head tail ih =>
    cases head with
    | stale invalid => exact .stale invalid ih
    | noBid valid e => exact .bidFails valid e ih
    | noAsk valid bid e => exact .bidRead valid bid (.error e) ih
    | whole valid bid ask => exact .bidRead valid bid (.ok ask) ih

theorem Progress.PhasesCourse.acting {settings : Settings} {prices : Prices}
    {orders : OpenOrders} {now : Instant} {s s' : Progress} {p : Phase} {calls : List Exchange}
    {t : Transcript} (phases : PhasesCourse settings prices orders now s p s' calls)
    (announced : Announced settings prices orders p t) : Acting t calls := by
  cases phases with
  | unprofitable nonempty canceled =>
    exact .cancels nonempty (fun w => CancelPlan.unprofitable_reason) (announced _ rfl) canceled
  | outbid nothing nonempty canceled =>
    exact .cancels nonempty (fun w => CancelPlan.outbid_reason) (announced _ rfl) canceled
  | proposed nothing nothing' passed placed =>
    cases placed with
    | empty nothing => exact .looks (by simpa using passed.onlyBalances)
    | unchecked nonempty e => exact .checks passed.onlyBalances e
    | rejected nonempty cut => exact .places passed.onlyBalances (fun x member => nomatch member)
    | placed nonempty whole all => exact .places passed.onlyBalances all.kind

theorem Progress.Course.shape {settings : Settings} {cycle : Nat} {cooldown : Cooldown}
    {now : Instant} {t : Transcript} {s : Progress}
    (course : Course settings cycle cooldown now t s) : CycleShape settings.pairs t := by
  cases course with
  | starting feed quiet => exact .starting feed quiet.1
  | aborted feed unasked made => exact .aborted feed made
  | ran feed made order read shown phases announced =>
    exact .ran feed made order read.bookReads (phases.acting announced)

theorem BookReads.kind {asked : List (Pair × Option BidAsk)} {calls : List Exchange}
    (reads : BookReads asked calls) : ∀ x ∈ calls, x.1.kind = .topOfBook := by
  induction reads with
  | nil => exact fun x member => nomatch member
  | stale invalid rest ih => exact ih
  | bidFails valid e rest ih => exact List.forall_mem_cons.mpr ⟨rfl, ih⟩
  | bidRead valid bid ask rest ih =>
    exact List.forall_mem_cons.mpr ⟨rfl, List.forall_mem_cons.mpr ⟨rfl, ih⟩⟩

/-- A cycle that cancels does nothing else, and one that does anything else does not cancel. -/
theorem Acting.exclusive {t : Transcript} {calls : List Exchange} (acting : Acting t calls) :
    (∀ x ∈ calls, x.1.kind = .cancel) ∨ ∀ x ∈ calls, x.1.kind ≠ .cancel := by
  cases acting with
  | cancels nonempty same announced canceled => exact Or.inl canceled.kind
  | looks only => exact Or.inr (others_of_kind only (by decide))
  | checks only e =>
    refine Or.inr (List.forall_mem_append.mpr ⟨others_of_kind only (by decide), ?_⟩)
    exact List.forall_mem_singleton.mpr CallKind.noConfusion
  | places only places =>
    refine Or.inr (List.forall_mem_append.mpr ⟨others_of_kind only (by decide), ?_⟩)
    exact List.forall_mem_cons.mpr
      ⟨CallKind.noConfusion, others_of_kind places (by decide)⟩

theorem CycleShape.exclusive {pairs : List Pair} {t : Transcript} (shape : CycleShape pairs t)
    (cancels : ∃ x ∈ t.calls, x.1.kind = .cancel) :
    ∀ x ∈ t.calls, x.1.kind ∉ [.balance, .budgetAdjust, .place] := by
  obtain ⟨cancel, member, kind⟩ := cancels
  cases shape with
  | starting feed silent =>
    rw [silent] at member
    exact nomatch member
  | aborted feed only =>
    rw [only, List.mem_singleton] at member
    rw [member] at kind
    exact nomatch kind
  | @ran feed orders reads acts made order read acting =>
    have first : ∀ x ∈ (⟨.openOrders, .ok orders⟩ :: reads : List Exchange),
        x.1.kind ≠ .cancel :=
      List.forall_mem_cons.mpr ⟨CallKind.noConfusion, others_of_kind read.kind (by decide)⟩
    have allowed : ∀ x ∈ (⟨.openOrders, .ok orders⟩ :: reads : List Exchange),
        x.1.kind ∉ [.balance, .budgetAdjust, .place] := by
      have opening : CallKind.openOrders ∉ [.balance, .budgetAdjust, .place] := by
        decide
      refine List.forall_mem_cons.mpr ⟨opening, fun x listed => ?_⟩
      rw [read.kind x listed]
      decide
    rw [made, ← List.cons_append] at member ⊢
    have only : ∀ x ∈ acts, x.1.kind = .cancel := by
      rcases List.mem_append.mp member with before | after
      · exact absurd kind (first cancel before)
      · exact acting.exclusive.resolve_right fun never => never cancel after kind
    refine List.forall_mem_append.mpr ⟨allowed, fun x listed => ?_⟩
    rw [only x listed]
    decide

/-- The calls that cancel. -/
def cancelCount (calls : List Exchange) : Nat := calls.countP fun x => decide (x.1.kind = .cancel)

theorem cancelCount_append (a b : List Exchange) :
    cancelCount (a ++ b) = cancelCount a + cancelCount b :=
  List.countP_append

theorem cancelCount_of_cancels {calls : List Exchange}
    (all : ∀ x ∈ calls, x.1.kind = .cancel) : cancelCount calls = calls.length :=
  List.countP_eq_length.mpr fun x member => decide_eq_true (all x member)

theorem cancelCount_of_others {calls : List Exchange}
    (nothing : ∀ x ∈ calls, x.1.kind ≠ .cancel) : cancelCount calls = 0 :=
  List.countP_eq_zero.mpr fun x member => by simpa using nothing x member

/-- All cancels of a cycle are counted, and under one phase. -/
def CancelsCounted (s : CycleSummary) (calls : List Exchange) : Prop :=
  (s.cancelsUnprofitable = cancelCount calls ∧ s.cancelsOutbid = 0) ∨
    (s.cancelsUnprofitable = 0 ∧ s.cancelsOutbid = cancelCount calls)

theorem Progress.PhasesCourse.counted {settings : Settings} {prices : Prices}
    {orders : OpenOrders} {now : Instant} {s s' : Progress} {p : Phase} {calls : List Exchange}
    (phases : PhasesCourse settings prices orders now s p s' calls)
    (fresh : s.summary.cancelsUnprofitable = 0) (fresh' : s.summary.cancelsOutbid = 0) :
    CancelsCounted s'.summary calls := by
  cases phases with
  | unprofitable nonempty canceled =>
    rw [CancelsCounted, cancelCount_of_cancels canceled.kind, canceled.length_eq]
    simp [withCancels, countCancels, fresh, fresh']
  | outbid nothing nonempty canceled =>
    rw [CancelsCounted, cancelCount_of_cancels canceled.kind, canceled.length_eq]
    simp [withCancels, countCancels, fresh, fresh', nothing]
  | @proposed pass result balances calls nothing nothing' passed placed =>
    have never : cancelCount (balances ++ calls) = 0 :=
      cancelCount_of_others (List.forall_mem_append.mpr
        ⟨others_of_kind passed.onlyBalances (by decide), placed.others (by decide) (by decide)⟩)
    rw [CancelsCounted, never]
    simp [withBatch, withCancels, countCancels, fresh, fresh', nothing, nothing']

theorem Progress.concluded_counted {p : Phase} {s : Progress} {calls : List Exchange} :
    CancelsCounted (s.concluded p).summary calls ↔ CancelsCounted s.summary calls := by
  cases p with
  | blocked reason => exact Iff.rfl
  | cancelUnprofitable | cancelOutbid | propose | done => exact Iff.rfl

theorem Progress.Course.counted {settings : Settings} {cycle : Nat} {cooldown : Cooldown}
    {now : Instant} {t : Transcript} {s : Progress}
    (course : Course settings cycle cooldown now t s) : CancelsCounted s.summary t.calls := by
  cases course with
  | starting feed quiet =>
    rw [quiet.1]
    exact Or.inl ⟨rfl, rfl⟩
  | aborted feed unasked made =>
    rw [made]
    exact Or.inl ⟨rfl, rfl⟩
  | @ran orders readings reads calls p s feed made order read shown phases announced =>
    have nothing : cancelCount (⟨.openOrders, .ok orders⟩ :: reads) = 0 := by
      exact cancelCount_of_others (List.forall_mem_cons.mpr
        ⟨CallKind.noConfusion, others_of_kind read.kind (by decide)⟩)
    rw [concluded_counted, made, ← List.cons_append, CancelsCounted, cancelCount_append, nothing,
      Nat.zero_add]
    exact phases.counted rfl rfl

namespace Keeper

/-- Every cycle makes its calls in this order. A cancel never shares a cycle with a balance, a check
of the budget or an order, also if no cancel goes through, and all cancels of a cycle are those of
one phase. -/
theorem cycle_shape {k k' : Keeper} {now : Instant} {t : Transcript} {s : CycleSummary}
    (path : Path (k.cycle now) t (s, k')) :
    CycleShape k.settings.pairs t ∧
      ((∃ x ∈ t.calls, x.1.kind = .cancel) →
        ∀ x ∈ t.calls, x.1.kind ∉ [.balance, .budgetAdjust, .place]) ∧
      ((s.cancelsUnprofitable = cancelCount t.calls ∧ s.cancelsOutbid = 0) ∨
        (s.cancelsUnprofitable = 0 ∧ s.cancelsOutbid = cancelCount t.calls)) := by
  obtain ⟨progress, course, rfl, -⟩ := cycle_course path
  exact ⟨course.shape, course.shape.exclusive, course.counted⟩

/-- A cancel that fails, and still nothing is proposed. -/
theorem cycle_shape_stuck : ∃ s k',
    Path (Keeper.small.cycle (Span.ofSeconds 5)) Rehearsal.stuckTranscript (s, k') ∧
      Rehearsal.stuckTranscript.calls.map (·.1) = [.openOrders, .topOfBook ⟨"X", "BTC"⟩ .buy,
        .topOfBook ⟨"X", "BTC"⟩ .sell, .cancel ⟨"X", "BTC"⟩ "#1"] ∧
      CycleShape Keeper.small.settings.pairs Rehearsal.stuckTranscript ∧
      (∀ x ∈ Rehearsal.stuckTranscript.calls, x.1.kind ∉ [.balance, .budgetAdjust, .place]) ∧
      (s.cancelsUnprofitable = 1 ∧ s.cancelsOutbid = 0 ∨
        s.cancelsUnprofitable = 0 ∧ s.cancelsOutbid = 1) := by
  obtain ⟨s, k', path⟩ := Rehearsal.stuckTranscript_path
  obtain ⟨shape, exclusive, counted⟩ := cycle_shape path
  have one : cancelCount Rehearsal.stuckTranscript.calls = 1 := by
    decide +kernel
  rw [one] at counted
  exact ⟨s, k', path, by decide +kernel, shape, exclusive (by decide +kernel), counted⟩

end Keeper

end QuoteKeeper
