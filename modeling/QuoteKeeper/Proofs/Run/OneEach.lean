import QuoteKeeper.Proofs.Cycle.Plans
import QuoteKeeper.Proofs.Run.Moments

/-!
# At most one order on each side of a pair

If nothing rests at a venue at first and only the keeper places orders there, then at every moment
of a run every resting order is on a listed pair, and no two of them are on the same side of the
same pair. A side is looked up in the orders that the cycle has found, which can be fewer by the
time the batch is placed, but not more.
-/

namespace QuoteKeeper

/-- The orders are on listed pairs, at most one on each side. -/
structure OneEach (pairs : List Pair) (orders : List RestingOrder) : Prop where
  listed : ∀ o ∈ orders, o.pair ∈ pairs
  single : (orders.map fun o => (o.pair, o.side)).Nodup

theorem oneEach_nil (pairs : List Pair) : OneEach pairs [] :=
  ⟨fun _ member => (nomatch member), List.nodup_nil⟩

theorem OneEach.sublist {pairs : List Pair} {before after : List RestingOrder}
    (fewer : after.Sublist before) (held : OneEach pairs before) : OneEach pairs after where
  listed o member := held.listed o (fewer.subset member)
  single := held.single.sublist (fewer.map _)

/-- A side of a listed pair is free if no order is on it. -/
theorem OpenOrders.not_mem_of_free {managed : List Pair} {orders : List RestingOrder} {p : Pair}
    {side : Side} (known : p ∈ managed) (free : (OpenOrders.mk managed orders).has p side = false)
    {o : RestingOrder} (member : o ∈ orders) : ¬ (o.pair = p ∧ o.side = side) := by
  intro same
  have nothing : RestingOrder.on orders p side = [] := by
    rw [has, on_managed known, Bool.not_eq_false'] at free
    exact List.isEmpty_iff.mp free
  have here := RestingOrder.mem_on.mpr ⟨member, same⟩
  rw [nothing] at here
  exact nomatch here

namespace Batch

theorem Yields.sides {cs : List Candidate} {new : List RestingOrder} (yields : Yields cs new) :
    (new.map (·.side)).Sublist (cs.map (·.side)) := by
  have projected := List.Sublist.map (fun e => e.2.1) yields
  rw [List.map_map, List.map_map] at projected
  exact projected

end Batch

namespace Progress

/-- What a cycle adds keeps one order on each side. -/
theorem Adds.oneEach {settings : Settings} {t : Transcript} {found new : List RestingOrder}
    (adds : Adds settings t found new) (held : OneEach settings.pairs found) :
    OneEach settings.pairs (found ++ new) := by
  cases adds with
  | @batch readings reads p prices cs r read shown profitable listed known sides accepted checked
      yields =>
    have origin : ∀ o ∈ new, o.pair = p ∧
        ∀ old ∈ found, ¬ (old.pair = p ∧ old.side = o.side) := by
      intro o member
      obtain ⟨c, candidate, pair, side, -⟩ := yields.mem member
      have fine := accepted c candidate
      refine ⟨pair.symm.trans fine.pair_eq, fun old resting => ?_⟩
      exact OpenOrders.not_mem_of_free listed (side ▸ fine.free) resting
    constructor
    · intro o member
      rcases List.mem_append.mp member with old | fresh
      · exact held.listed o old
      · rw [(origin o fresh).1]
        exact listed
    · rw [List.map_append]
      refine List.nodup_append.mpr ⟨held.single, ?_, ?_⟩
      · have distinct : (new.map (·.side)).Nodup :=
          (List.Nodup.sublist (yields.sides.trans sides) (by decide))
        refine List.Nodup.of_map Prod.snd ?_
        rw [List.map_map]
        exact distinct
      · intro a left b right same
        obtain ⟨old, resting, rfl⟩ := List.mem_map.mp left
        obtain ⟨o, fresh, rfl⟩ := List.mem_map.mp right
        obtain ⟨pair, side⟩ := Prod.mk.inj same
        obtain ⟨here, free⟩ := origin o fresh
        exact free old resting ⟨pair.trans here, side⟩

end Progress

namespace Keeper

/-- At every moment of a run that starts with nothing resting, every resting order is on a listed
pair and no two are on one side of one pair. -/
theorem run_oneEach {k k' : Keeper} {turns : List Turn} (runs : Runs k turns k') {v w : Paper}
    (fresh : v.orders = []) {done rest : List Exchange} (moment : done ++ rest = callsOf turns)
    (serves : v.Serves done w) :
    (∀ o ∈ w.orders, o.pair ∈ k.settings.pairs) ∧
      (w.orders.map fun o => (o.pair, o.side)).Nodup := by
  have held : OneEach k.settings.pairs w.orders :=
    runs.keeps OneEach.sublist (fun _ _ _ _ adds => adds.oneEach) ⟨rest, moment⟩ serves
      (fresh ▸ oneEach_nil _)
  exact ⟨held.listed, held.single⟩

/-- Two rehearsed cycles leave a buy and a sell on the one pair. -/
theorem run_oneEach_small : ∃ turns k' w, Runs Keeper.small turns k' ∧
    Rehearsal.small.venue.Serves (callsOf turns) w ∧ w.orders.length = 2 ∧
    (∀ o ∈ w.orders, o.pair ∈ Keeper.small.settings.pairs) ∧
    (w.orders.map fun o => (o.pair, o.side)).Nodup := by
  have ended : (Rehearsal.cycles Keeper.small Rehearsal.small
      [Span.ofSeconds 5, Span.ofSeconds 6]).toOption.map
        (fun last => last.2.2.venue.orders.length) = some 2 := by
    decide +kernel
  cases done : Rehearsal.cycles Keeper.small Rehearsal.small
      [Span.ofSeconds 5, Span.ofSeconds 6] with
  | error e =>
    rw [done] at ended
    exact nomatch ended
  | ok last =>
    rw [done] at ended
    obtain ⟨turns, k', r'⟩ := last
    obtain ⟨runs, serves⟩ := Rehearsal.cycles_runs rfl done
    obtain ⟨listed, single⟩ := run_oneEach runs rfl (List.append_nil _) serves
    exact ⟨turns, k', r'.venue, runs, serves, Option.some.inj ended, listed, single⟩

end Keeper

end QuoteKeeper
