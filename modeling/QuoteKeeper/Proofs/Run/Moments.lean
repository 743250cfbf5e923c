import QuoteKeeper.Proofs.Cycle.Course
import QuoteKeeper.Proofs.Rehearsal.Serving

/-!
# What rests during a run of cycles

A run of cycles at a paper venue, to which anything may happen between any two calls. At every
moment of a cycle the resting orders are either among those from before it, or among those that it
found with some of the batch it has accepted. So an invariant of the resting orders holds throughout
a run if it survives the loss of orders and the addition of an accepted batch. Rehearsed cycles are
such a run.
-/

namespace QuoteKeeper

open Dialogue

/-- What begins two lists in a row either begins the first or goes on into the second. -/
theorem begun_append {done first rest : List Exchange} (begun : done <+: first ++ rest) :
    done <+: first ∨ ∃ more, done = first ++ more ∧ more <+: rest := by
  rcases List.prefix_or_prefix_of_prefix begun (List.prefix_append first rest) with early | late
  · exact Or.inl early
  · obtain ⟨more, rfl⟩ := late
    exact Or.inr ⟨more, rfl, (List.prefix_append_right_inj first).mp begun⟩

namespace Batch

/-- The orders come from the candidates, of which some can be missing. -/
def Yields (cs : List Candidate) (new : List RestingOrder) : Prop :=
  (new.map fun o => (o.pair, o.side, o.price)).Sublist (cs.map fun c => (c.pair, c.side, c.price))

theorem yields_nil (cs : List Candidate) : Yields cs [] := List.nil_sublist _

theorem Yields.cons {cs : List Candidate} {new : List RestingOrder} (yields : Yields cs new)
    (c : Candidate) (id : OrderId) : Yields (c :: cs) (c.rest id :: new) :=
  List.Sublist.cons_cons (c.pair, c.side, c.price) yields

theorem Yields.skip {cs : List Candidate} {new : List RestingOrder} (yields : Yields cs new)
    (c : Candidate) : Yields (c :: cs) new :=
  List.Sublist.cons (c.pair, c.side, c.price) yields

theorem Yields.of_nil {new : List RestingOrder} (yields : Yields [] new) : new = [] :=
  List.map_eq_nil_iff.mp (List.sublist_nil.mp yields)

theorem Yields.mem {cs : List Candidate} {new : List RestingOrder} (yields : Yields cs new)
    {o : RestingOrder} (member : o ∈ new) :
    ∃ c ∈ cs, c.pair = o.pair ∧ c.side = o.side ∧ c.price = o.price := by
  have shown := yields.subset (List.mem_map_of_mem member)
  obtain ⟨c, listed, same⟩ := List.mem_map.mp shown
  obtain ⟨pair, others⟩ := Prod.mk.inj same
  obtain ⟨side, price⟩ := Prod.mk.inj others
  exact ⟨c, listed, pair, side, price⟩

/-- While a batch is placed, what is added comes from its candidates. -/
theorem Placed.orders {cs : List Candidate} {result : BatchResult} {calls : List Exchange}
    (placed : Placed cs result calls) {done : List Exchange} (begun : done <+: calls)
    {v w : Paper} (serves : v.Serves done w) :
    ∃ new, Yields cs new ∧ w.orders.Sublist (v.orders ++ new) := by
  induction placed generalizing done v with
  | nil =>
    obtain rfl := List.prefix_nil.mp begun
    exact ⟨[], yields_nil _, by simpa using serves.sublist_nil⟩
  | done _ rest ih | failed _ rest ih =>
    cases done with
    | nil => exact ⟨[], yields_nil _, by simpa using serves.sublist_nil⟩
    | cons x done =>
      obtain ⟨rfl, others⟩ := List.cons_prefix_cons.mp begun
      obtain ⟨u, first, later⟩ := serves.split_cons
      obtain ⟨new, yields, within⟩ := ih others later
      rcases first.place with fewer | ⟨id, more⟩
      · exact ⟨new, yields.skip _, within.trans (fewer.append (List.Sublist.refl new))⟩
      · refine ⟨_ :: new, yields.cons _ id, within.trans ?_⟩
        simpa using more.append (List.Sublist.refl new)

/-- The same while the batch is checked and then placed. -/
theorem Course.orders {batch : List Candidate} {result : BatchResult} {calls : List Exchange}
    (course : Course batch result calls) {done : List Exchange} (begun : done <+: calls)
    {v w : Paper} (serves : v.Serves done w) :
    ∃ new, Yields batch new ∧ w.orders.Sublist (v.orders ++ new) := by
  cases course with
  | empty nothing =>
    obtain rfl := List.prefix_nil.mp begun
    exact ⟨[], yields_nil _, by simpa using serves.sublist_nil⟩
  | unchecked | rejected =>
    refine ⟨[], yields_nil _, ?_⟩
    have unplaced : ∀ x ∈ done, x.1.kind ≠ .place := by
      intro x member
      rw [List.mem_singleton.mp (begun.subset member)]
      exact CallKind.noConfusion
    simpa using serves.sublist unplaced
  | placed nonempty whole all =>
    cases done with
    | nil => exact ⟨[], yields_nil _, by simpa using serves.sublist_nil⟩
    | cons x done =>
      obtain ⟨rfl, others⟩ := List.cons_prefix_cons.mp begun
      obtain ⟨u, first, later⟩ := serves.split_cons
      obtain rfl := first.budget whole
      obtain ⟨new, yields, within⟩ := all.orders others later
      have fewer : u.orders.Sublist v.orders :=
        first.sublist (List.forall_mem_singleton.mpr CallKind.noConfusion)
      exact ⟨new, yields, within.trans (fewer.append (List.Sublist.refl new))⟩

end Batch

namespace Progress

/-- The orders that a cycle has added to those it has found: there was nothing unprofitable among
these, and the batch was accepted for one pair at the prices that the transcript shows. -/
inductive Adds (settings : Settings) (t : Transcript) (found new : List RestingOrder) : Prop
  | batch {readings : List (Pair × Reading)} {reads : List Exchange} {p : Pair}
      {pairPrices : PairPrices} {batch : List Candidate} {r : Except CallError (List Candidate)}
      (read : Reading.Courses t.references readings reads)
      (shown : readings? settings.pairs t = some readings)
      (profitable : (CancelPlan.unprofitable settings (Prices.ofReadings readings)
        ⟨settings.pairs, found⟩).withdrawals = [])
      (listed : p ∈ settings.pairs)
      (known : (Prices.ofReadings readings).get? p = some pairPrices)
      (sides : (batch.map (·.side)).Sublist [.buy, .sell])
      (accepted : ∀ c ∈ batch, Proposal.Accepted settings p pairPrices ⟨settings.pairs, found⟩ c)
      (checked : ⟨.budgetAdjust batch true, r⟩ ∈ t.calls)
      (yields : Batch.Yields batch new)

/-- What rests at a moment of a cycle: some of what rested before, or some of what the cycle has
found and has added to it. -/
inductive Moment (settings : Settings) (t : Transcript) (before after : List RestingOrder) : Prop
  | fewer (within : after.Sublist before)
  | more {found new : List RestingOrder} (looked : found.Sublist before)
      (within : after.Sublist (found ++ new)) (adds : Adds settings t found new)

theorem Course.moment {settings : Settings} {cycle : Nat} {cooldown : Cooldown} {now : Instant}
    {t : Transcript} {s : Progress} (course : Course settings cycle cooldown now t s)
    {done : List Exchange} (begun : done <+: t.calls) {v w : Paper} (serves : v.Serves done w) :
    Moment settings t v.orders w.orders := by
  -- As long as only a part of the cycle without orders is over, nothing can have been added.
  have early : ∀ {part : List Exchange}, done <+: part → (∀ x ∈ part, x.1.kind ≠ .place) →
      Moment settings t v.orders w.orders := fun within unplaced =>
    .fewer (serves.sublist fun x member => unplaced x (within.subset member))
  cases course with
  | starting feed quiet =>
    rw [quiet.1] at begun
    exact early begun fun x member => nomatch member
  | aborted feed unasked made =>
    rw [made] at begun
    exact early begun (List.forall_mem_singleton.mpr CallKind.noConfusion)
  | @ran orders readings reads calls p s feed made order read shown phases announced =>
    have unplaced := others_of_kind (b := .place) read.kind (by decide)
    rw [made] at begun
    cases phases with
    | unprofitable nonempty canceled | outbid nothing nonempty canceled =>
      refine early begun (List.forall_mem_cons.mpr ⟨CallKind.noConfusion, ?_⟩)
      exact List.forall_mem_append.mpr ⟨unplaced, others_of_kind canceled.kind (by decide)⟩
    | @proposed pass result balances calls nothing nothing' passed placed =>
      have looking : ∀ x ∈ reads ++ balances, x.1.kind ≠ .place :=
        List.forall_mem_append.mpr ⟨unplaced, others_of_kind passed.onlyBalances (by decide)⟩
      rw [← List.append_assoc, ← List.cons_append] at made begun
      rcases begun_append begun with within | ⟨placing, rfl, late⟩
      · exact early within (List.forall_mem_cons.mpr ⟨CallKind.noConfusion, looking⟩)
      · obtain ⟨u, before, after⟩ := serves.split
        obtain ⟨x, opens, reading⟩ := before.split_cons
        obtain ⟨looked, left⟩ := opens.openOrders
        obtain ⟨new, yields, within⟩ := placed.orders late after
        have kept : u.orders.Sublist orders := (reading.sublist looking).trans left
        have within' := within.trans (kept.append (List.Sublist.refl new))
        by_cases empty : pass.batch = []
        · rw [empty] at yields
          obtain rfl := yields.of_nil
          rw [List.append_nil] at within'
          exact .fewer (within'.trans looked)
        · obtain ⟨sides, nonempty⟩ := passed.batch
          obtain ⟨q, listed, pairPrices, known, accepted⟩ := nonempty.resolve_left empty
          obtain ⟨r, checked⟩ := placed.checked empty
          exact .more looked within' (.batch read shown nothing listed known sides accepted
            (made ▸ List.mem_append_right _ checked) yields)

end Progress

/-- A cycle at some time, with the transcript it leaves. -/
structure Turn where
  now : Instant
  transcript : Transcript

/-- The calls of some cycles, in order. -/
def callsOf (turns : List Turn) : List Exchange := turns.flatMap (·.transcript.calls)

namespace Keeper

/-- The keeper goes through some cycles, one after the other. -/
inductive Runs : Keeper → List Turn → Keeper → Prop
  | stay (k : Keeper) : Runs k [] k
  | turn {k k' k'' : Keeper} {turn : Turn} {turns : List Turn} {s : CycleSummary}
      (path : Path (k.cycle turn.now) turn.transcript (s, k')) (later : Runs k' turns k'') :
      Runs k (turn :: turns) k''

theorem cycle_settings {k k' : Keeper} {now : Instant} {t : Transcript} {s : CycleSummary}
    (path : Path (k.cycle now) t (s, k')) : k'.settings = k.settings := by
  obtain ⟨progress, -, -, rfl⟩ := cycle_course path
  rfl

/-- What survives the loss of orders, and every batch that a cycle of the run adds, holds at every
moment of the run. -/
theorem Runs.keeps {Inv : List RestingOrder → Prop}
    (fewer : ∀ {before after : List RestingOrder}, after.Sublist before → Inv before → Inv after)
    {k k' : Keeper} {turns : List Turn} (runs : Runs k turns k')
    (more : ∀ turn ∈ turns, ∀ {found new : List RestingOrder},
      Progress.Adds k.settings turn.transcript found new → Inv found → Inv (found ++ new))
    {done : List Exchange} (begun : done <+: callsOf turns) {v w : Paper}
    (serves : v.Serves done w) (start : Inv v.orders) : Inv w.orders := by
  induction runs generalizing done v with
  | stay k =>
    obtain rfl := List.prefix_nil.mp begun
    exact fewer serves.sublist_nil start
  | @turn k k' k'' turn turns s path later ih =>
    have cycle : ∀ {part : List Exchange} {u x : Paper}, part <+: turn.transcript.calls →
        u.Serves part x → Inv u.orders → Inv x.orders := by
      intro part u x early serves held
      obtain ⟨progress, course, -⟩ := cycle_course path
      cases course.moment early serves with
      | fewer within => exact fewer within held
      | more looked within adds =>
        exact fewer within (more turn List.mem_cons_self adds (fewer looked held))
    -- The moment is in the first cycle, or that is over and the moment is in the later ones.
    rcases begun_append begun with early | ⟨rest, rfl, others⟩
    · exact cycle early serves start
    · obtain ⟨u, before, after⟩ := serves.split
      refine ih (fun other member => ?_) others after (cycle (List.prefix_refl _) before start)
      rw [cycle_settings path]
      exact more other (List.mem_cons_of_mem _ member)

end Keeper

namespace Rehearsal

/-- Rehearse a cycle at each of some times: their turns, and the keeper and the rehearsal after
them. -/
def cycles (k : Keeper) (r : Rehearsal) :
    List Instant → Except Overflow (List Turn × Keeper × Rehearsal)
  | [] => .ok ([], k, r)
  | now :: later =>
    match r.converse (k.cycle now) with
    | (.error e, _) => .error e
    | (.ok (_, k'), r') =>
      (cycles k' r' later).map fun (turns, last) =>
        (⟨now, (k.cycle now).transcript world r⟩ :: turns, last)

/-- Rehearsed cycles are a run of the keeper at the venue. -/
theorem cycles_runs {k k' : Keeper} {r r' : Rehearsal} {times : List Instant} {turns : List Turn}
    (uncut : r.cut = 0) (done : cycles k r times = .ok (turns, k', r')) :
    Keeper.Runs k turns k' ∧ r.venue.Serves (callsOf turns) r'.venue := by
  induction times generalizing k r turns with
  | nil =>
    obtain ⟨rfl, rest⟩ := Prod.mk.inj (Except.ok.inj done)
    obtain ⟨rfl, rfl⟩ := Prod.mk.inj rest
    exact ⟨.stay k, .idle _⟩
  | cons now later ih =>
    rw [cycles] at done
    split at done
    next e r₁ broken => exact nomatch done
    next s k₁ r₁ ended =>
      cases others : cycles k₁ r₁ later with
      | error e =>
        rw [others] at done
        exact nomatch done
      | ok last =>
        rw [others] at done
        obtain ⟨turns', last⟩ := last
        obtain ⟨rfl, same⟩ := Prod.mk.inj (Except.ok.inj done)
        obtain ⟨rfl, rfl⟩ := Prod.mk.inj same
        obtain ⟨served, left⟩ := serves (d := k.cycle now) uncut
        rw [converse] at ended
        rw [ended] at served left
        obtain ⟨runs, serving⟩ := ih left others
        have path : Path (k.cycle now) ((k.cycle now).transcript world r) (s, k₁) :=
          path_transcript (by rw [ended])
        exact ⟨.turn path runs, served.append serving⟩

end Rehearsal

end QuoteKeeper
