import QuoteKeeper.Proofs.Cycle.Observed
import QuoteKeeper.Proofs.Cycle.Plans
import QuoteKeeper.Proofs.Rehearsal.Serving

/-!
# Which orders a cycle cancels

The cancel calls of a cycle are told from what it has read: the orders that are past the reference
prices, and if there are none the orders that the books have left behind. Orders with distinct ids
are canceled at most once each, and only on pairs that are listed and have a valid reference.
-/

namespace QuoteKeeper

open Dialogue

namespace Transcript

/-- The orders past the reference of their pair, by the pairs of the settings. -/
def pastReferences (t : Transcript) (settings : Settings) (orders : List RestingOrder) :
    List RestingOrder :=
  settings.pairs.flatMap fun p =>
    (t.reference? p).elim [] (CancelPlan.pastReference settings orders p)

/-- The orders left behind by the book of their pair, by the pairs of the settings. The book of a
pair without a valid reference does not count. -/
def leftBehinds (t : Transcript) (settings : Settings) (orders : List RestingOrder) :
    List RestingOrder :=
  settings.pairs.flatMap fun p =>
    ((t.reference? p).bind fun _ => t.book? p).elim [] (CancelPlan.leftBehind settings orders p)

/-- The orders that a cycle has to cancel. -/
def breaches (t : Transcript) (settings : Settings) (orders : List RestingOrder) :
    List RestingOrder :=
  if t.pastReferences settings orders ≠ [] then t.pastReferences settings orders
  else t.leftBehinds settings orders

theorem mem_pastReferences {t : Transcript} {settings : Settings} {orders : List RestingOrder}
    {o : RestingOrder} (member : o ∈ t.pastReferences settings orders) :
    o ∈ orders ∧ o.pair ∈ settings.pairs ∧ t.reference? o.pair ≠ none :=
  CancelPlan.mem_picked (fun _ _ _ => CancelPlan.mem_pastReference) member

theorem mem_leftBehinds {t : Transcript} {settings : Settings} {orders : List RestingOrder}
    {o : RestingOrder} (member : o ∈ t.leftBehinds settings orders) :
    o ∈ orders ∧ o.pair ∈ settings.pairs ∧ t.reference? o.pair ≠ none := by
  obtain ⟨resting, listed, shown⟩ :=
    CancelPlan.mem_picked (fun _ _ _ => CancelPlan.mem_leftBehind) member
  refine ⟨resting, listed, fun stale => shown ?_⟩
  rw [stale, Option.bind_none]

/-- What is canceled rests, on a listed pair with a valid reference. -/
theorem mem_breaches {t : Transcript} {settings : Settings} {orders : List RestingOrder}
    {o : RestingOrder} (member : o ∈ t.breaches settings orders) :
    o ∈ orders ∧ o.pair ∈ settings.pairs ∧ t.reference? o.pair ≠ none := by
  rw [breaches] at member
  split at member
  · exact mem_pastReferences member
  · exact mem_leftBehinds member

theorem breaches_ids {t : Transcript} {settings : Settings} (distinct : settings.pairs.Nodup)
    {orders : List RestingOrder} (ids : (orders.map (·.id)).Nodup) :
    ((t.breaches settings orders).map (·.id)).Nodup := by
  rw [breaches]
  split
  · exact CancelPlan.ids_picked ids distinct (fun _ _ _ => CancelPlan.mem_pastReference)
      fun p _ => CancelPlan.ids_sides ids p _ _
  · exact CancelPlan.ids_picked ids distinct (fun _ _ _ => CancelPlan.mem_leftBehind)
      fun p _ => CancelPlan.ids_sides ids p _ _

end Transcript

namespace Batch

theorem Canceled.cancels {ws : List Withdrawal} {calls : List Exchange} {failed : Nat}
    (canceled : Canceled ws calls failed) :
    calls.filterMap Transcript.canceled? =
      (ws.map (·.order)).map fun o => (o.pair, o.id) := by
  induction canceled with
  | nil => rfl
  | done rest ih => exact congrArg (_ :: ·) ih
  | failed e rest ih => exact congrArg (_ :: ·) ih

end Batch

namespace Progress

open Transcript

theorem PhasesCourse.cancels {settings : Settings} {prices : Prices} {orders : OpenOrders}
    {now : Instant} {s s' : Progress} {p : Phase} {calls : List Exchange}
    (phases : PhasesCourse settings prices orders now s p s' calls) {past left : List RestingOrder}
    (planned : (CancelPlan.unprofitable settings prices orders).withdrawals.map (·.order) = past)
    (planned' : (CancelPlan.outbid settings prices orders).withdrawals.map (·.order) = left) :
    calls.filterMap canceled? =
      (if past ≠ [] then past else left).map fun o => (o.pair, o.id) := by
  subst planned planned'
  cases phases with
  | unprofitable nonempty canceled =>
    rw [if_pos (fun empty => nonempty (List.map_eq_nil_iff.mp empty))]
    exact canceled.cancels
  | outbid nothing nonempty canceled =>
    rw [nothing, if_neg (fun past => past rfl)]
    exact canceled.cancels
  | proposed nothing nothing' passed placed =>
    rw [nothing, nothing', if_neg (fun past => past rfl), List.filterMap_append]
    rw [cancels_eq_nil (others_of_kind passed.onlyBalances (by decide)),
      cancels_eq_nil (placed.others (by decide) (by decide))]
    rfl

theorem Course.cancels_eq {settings : Settings} {cycle : Nat} {cooldown : Cooldown}
    {now : Instant} {t : Transcript} {s : Progress}
    (course : Course settings cycle cooldown now t s) (distinct : settings.pairs.Nodup)
    {orders : List RestingOrder} (read : t.openOrders? = some orders) :
    t.cancels = (t.breaches settings orders).map fun o => (o.pair, o.id) := by
  cases course with
  | starting feed quiet =>
    rw [openOrders?, quiet.1] at read
    cases read
  | aborted feed unasked made =>
    rw [openOrders?, made] at read
    cases read
  | @ran found readings reads calls p s feed made order courses shown phases announced =>
    obtain rfl : found = orders := Option.some.inj ((openOrders?_eq made).symm.trans read)
    have prices : ∀ q ∈ settings.pairs, (Prices.ofReadings readings).get? q =
        (t.reference? q).map fun r => { reference := r, book := t.book? q } := by
      intro q listed
      rw [book?_eq made phases.unread]
      exact Prices.get?_of_courses courses (order ▸ distinct) (order ▸ listed)
    have past : (CancelPlan.unprofitable settings (Prices.ofReadings readings)
        ⟨settings.pairs, found⟩).withdrawals.map (·.order) = t.pastReferences settings found := by
      rw [CancelPlan.unprofitable_orders]
      refine List.flatMap_congr fun q listed => ?_
      rw [prices q listed]
      cases t.reference? q with
      | none => rfl
      | some r => rfl
    have left : (CancelPlan.outbid settings (Prices.ofReadings readings)
        ⟨settings.pairs, found⟩).withdrawals.map (·.order) = t.leftBehinds settings found := by
      rw [CancelPlan.outbid_orders]
      refine List.flatMap_congr fun q listed => ?_
      rw [prices q listed]
      cases t.reference? q with
      | none => rfl
      | some r => rfl
    have nothing := cancels_eq_nil (others_of_kind courses.kind (by decide))
    have split : t.cancels = reads.filterMap canceled? ++ calls.filterMap canceled? := by
      rw [cancels, made, ← List.filterMap_append]
      rfl
    rw [split, nothing, List.nil_append]
    exact phases.cancels past left

end Progress

namespace Keeper

/-- A cycle that could read the resting orders cancels those past the reference prices, in the order
of the listed pairs and the buys of a pair before its sells; if there are none, those left behind by
the books, in the same order; and no other. -/
theorem cycle_cancels {k k' : Keeper} {now : Instant} {t : Transcript} {s : CycleSummary}
    (path : Path (k.cycle now) t (s, k')) (distinct : k.settings.pairs.Nodup)
    {orders : List RestingOrder} (read : t.openOrders? = some orders) :
    t.cancels =
        (if t.pastReferences k.settings orders ≠ [] then t.pastReferences k.settings orders
          else t.leftBehinds k.settings orders).map (fun o => (o.pair, o.id)) ∧
      (∀ c ∈ t.cancels, c.1 ∈ k.settings.pairs ∧ t.reference? c.1 ≠ none) ∧
      ((orders.map (·.id)).Nodup → (t.cancels.map (·.2)).Nodup ∧
        ∀ o ∈ orders, o.pair ∉ k.settings.pairs ∨ t.reference? o.pair = none →
          o.id ∉ t.cancels.map (·.2)) := by
  obtain ⟨progress, course, -, -⟩ := cycle_course path
  have canceled := course.cancels_eq distinct read
  refine ⟨canceled, fun c member => ?_, fun ids => ⟨?_, fun o resting exempt member => ?_⟩⟩
  · rw [canceled] at member
    obtain ⟨o, breach, rfl⟩ := List.mem_map.mp member
    exact (Transcript.mem_breaches breach).2
  · rw [canceled, List.map_map]
    exact Transcript.breaches_ids distinct ids
  · rw [canceled, List.map_map] at member
    obtain ⟨other, breach, same⟩ := List.mem_map.mp member
    obtain ⟨listed, known⟩ := Transcript.mem_breaches breach
    obtain rfl := List.inj_on_of_nodup_map ids listed resting same
    rcases exempt with unlisted | stale
    · exact unlisted known.1
    · exact known.2 stale

/-- A buy above the reference is canceled, and nothing else is. -/
theorem cycle_cancels_stuck : ∃ orders,
    Keeper.small.settings.pairs.Nodup ∧ Rehearsal.stuckTranscript.openOrders? = some orders ∧
      (Rehearsal.stuckTranscript.pastReferences Keeper.small.settings orders).map (·.id) =
        ["#1"] ∧
      Rehearsal.stuckTranscript.cancels = [(⟨"X", "BTC"⟩, "#1")] ∧
      (Rehearsal.stuckTranscript.cancels.map (·.2)).Nodup := by
  obtain ⟨s, k', path⟩ := Rehearsal.stuckTranscript_path
  have distinct : Keeper.small.settings.pairs.Nodup := by
    decide
  have read : Rehearsal.stuckTranscript.openOrders? = some Rehearsal.smallStuck.venue.orders := by
    decide +kernel
  obtain ⟨canceled, -, ids⟩ := cycle_cancels path distinct read
  have past : Rehearsal.stuckTranscript.pastReferences Keeper.small.settings
      Rehearsal.smallStuck.venue.orders = Rehearsal.smallStuck.venue.orders := by
    decide +kernel
  refine ⟨_, distinct, read, by rw [past]; decide +kernel, ?_, (ids (by decide +kernel)).1⟩
  rw [canceled, past]
  decide +kernel

end Keeper

end QuoteKeeper
