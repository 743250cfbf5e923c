import QuoteKeeper.Proofs.Cycle.Affordable
import QuoteKeeper.Proofs.Rehearsal.Faultless

/-!
# What is proposed is placed

At a venue without faults, whatever is proposed for a listed pair of two currencies passes the check
of the budget and is taken. So a cycle with checked settings, whose balances can be read, comes to
its end, and everything that it proposes on such a pair it has placed.
-/

namespace QuoteKeeper

open Decimal Dialogue

namespace Rehearsal

variable {r : Rehearsal}

/-- A rehearsed proposal for a listed pair of two currencies is affordable. -/
theorem outcome_affords (faultless : r.Faultless) {settings : Settings}
    (valid : settings.check = .ok ()) {p : Pair} (listed : p ∈ settings.pairs)
    (apart : p.base ≠ p.quote) {prices : PairPrices} {orders : OpenOrders} {cooldown : Cooldown}
    {now : Instant} {o : PairOutcome}
    (ended : (r.converse (Proposal.outcome settings p prices orders cooldown now)).1 = .ok o) :
    (∀ c ∈ o.candidates, r.venue.Affords c) ∧ (o.candidates.map (·.currency)).Nodup := by
  obtain ⟨-, course⟩ := Proposal.outcome_course (path_transcript ended)
  obtain ⟨-, told⟩ := (faultless.ended ended).answers.look
    (looks_of_kind course.onlyBalances (by decide))
  exact ⟨course.affords (Settings.size_pos valid listed) faultless.working told,
    course.currencies apart⟩

/-- A rehearsed cycle comes to its end, and has placed all that it has proposed, if every balance
that it could break down over can be read at its start. -/
theorem cycle_complete (faultless : r.Faultless) {k : Keeper}
    (valid : k.settings.check = .ok ()) {now : Instant}
    (readable : ∀ done currency, Broken r (k.cycle now) done (.balance currency) →
      ∃ free, r.venue.available currency = .ok free)
    (apart : ∀ calls, (r.converse (k.cycle now)).2.minutes.calls = r.minutes.calls ++ calls →
      ∀ c ∈ calls, c.Apart) :
    ∃ s k', Ended r (k.cycle now) (s, k') ∧ s.Complete := by
  rcases faultless.run (k.cycle now) with ⟨⟨s, k'⟩, ended⟩ | ⟨done, c, broken⟩
  · refine ⟨s, k', ended, ?_⟩
    obtain ⟨progress, course, rfl, -⟩ := Keeper.cycle_course (path_transcript ended.result)
    exact course.complete valid faultless.working ended.answers fun x member =>
      apart _ ended.calls x.1 (List.mem_map_of_mem member)
  · obtain ⟨t, ⟨s, k'⟩, reply, more, path, made⟩ := broken.next
    obtain ⟨u, e, answers, breaks⟩ := broken.breaks
    obtain ⟨progress, course, -, -⟩ := Keeper.cycle_course path
    have different : ∀ x ∈ done ++ [⟨c, reply⟩], x.1.Apart := fun x member =>
      apart _ broken.calls x.1 (by simpa using List.mem_map_of_mem (f := Sigma.fst) member)
    obtain ⟨answered, answer⟩ := course.unbroken valid faultless.working
      (fun currency same => readable done currency (same ▸ broken)) made answers different
    exact nomatch breaks.symm.trans answer

/-- With checked settings, at a venue without faults: whatever is proposed for a listed pair of two
currencies has positive prices and amounts, passes the check of the budget unchanged and is taken in
order; and a cycle whose balances can be read and whose batch is on such a pair comes to its end,
with every proposal placed and nothing rejected or failed. -/
theorem proposals_fulfilled {settings : Settings} (valid : settings.check = .ok ()) :
    (∀ p ∈ settings.pairs, p.base ≠ p.quote → ∀ r : Rehearsal, r.Faultless →
      ∀ (prices : PairPrices) (orders : OpenOrders) (cooldown : Cooldown) (now : Instant)
        (o : PairOutcome),
        (r.converse (Proposal.outcome settings p prices orders cooldown now)).1 = .ok o →
          (∀ c ∈ o.candidates, zero < c.price ∧ zero < c.amount) ∧
          r.venue.adjust o.candidates true = .ok (.ok o.candidates) ∧
          r.venue.PlacesAll o.candidates) ∧
    ∀ (k : Keeper) (r : Rehearsal) (now : Instant), k.settings = settings → r.Faultless →
      (∀ currency, ∃ free, r.venue.available currency = .ok free) →
      (∀ calls, (r.converse (k.cycle now)).2.minutes.calls = r.minutes.calls ++ calls →
        ∀ c ∈ calls, c.Apart) →
      ∃ s k', (r.converse (k.cycle now)).1 = .ok (s, k') ∧ s.ordersPlaced = s.proposals ∧
        s.budgetRejected = 0 ∧ s.placeFailures = 0 := by
  constructor
  · intro p listed apart r faultless prices orders cooldown now o ended
    obtain ⟨affords, distinct⟩ := outcome_affords faultless valid listed apart ended
    refine ⟨fun c member => ?_, Paper.adjust_affords affords distinct,
      Paper.placesAll_affords faultless.working affords distinct⟩
    have fine := affords c member
    exact ⟨value_pos_iff.mpr fine.price_pos, value_pos_iff.mpr fine.amount_pos⟩
  · rintro k r now rfl faultless readable apart
    obtain ⟨s, k', ended, complete⟩ := cycle_complete faultless valid
      (fun _ currency _ => readable currency) apart
    exact ⟨s, k', ended.result, complete⟩

/-- The proposal for the pair of the small market. -/
def smallProposal : Dialogue PairOutcome :=
  Proposal.outcome Keeper.small.settings ⟨"X", "BTC"⟩
    { reference := ⟨0.0010, 0.0011⟩, book := some ⟨0.00098, 0.00112⟩ }
    ⟨Keeper.small.settings.pairs, []⟩ Keeper.small.cooldown (Span.ofSeconds 5)

theorem small_faultless : small.Faultless := ⟨fun _ => rfl, rfl, rfl⟩

/-- In the small market a buy and a sell are proposed, and both are placed. -/
theorem proposals_fulfilled_small : Keeper.small.settings.check = .ok () ∧
    (∃ o, (small.converse smallProposal).1 = .ok o ∧
      o.candidates.length = 2 ∧ small.venue.PlacesAll o.candidates) ∧
    ∃ s k', (small.converse (Keeper.small.cycle (Span.ofSeconds 5))).1 = .ok (s, k') ∧
      s.proposals = 2 ∧ s.ordersPlaced = s.proposals := by
  have valid : Keeper.small.settings.check = .ok () := by
    decide +kernel
  have two : (small.converse smallProposal).1.toOption.map (·.candidates.length) = some 2 := by
    decide +kernel
  have both : (small.converse (Keeper.small.cycle (Span.ofSeconds 5))).1.toOption.map
      (·.1.proposals) = some 2 := by
    decide +kernel
  have apart : ∀ c ∈ (small.converse (Keeper.small.cycle (Span.ofSeconds 5))).2.minutes.calls,
      c.Apart := by
    decide +kernel
  obtain ⟨each, whole⟩ := proposals_fulfilled valid
  refine ⟨valid, ?_, ?_⟩
  · cases ended : (small.converse smallProposal).1 with
    | error e =>
      rw [ended] at two
      exact nomatch two
    | ok o =>
      rw [ended] at two
      obtain ⟨-, -, placed⟩ :=
        each _ List.mem_cons_self (by decide) small small_faultless _ _ _ _ o ended
      exact ⟨o, rfl, Option.some.inj two, placed⟩
  · obtain ⟨s, k', ended, placed, -⟩ := whole Keeper.small small (Span.ofSeconds 5) rfl
      small_faultless (Paper.available_fresh rfl) (fun calls written => by
        rw [written] at apart
        exact apart)
    rw [ended] at both
    exact ⟨s, k', ended, Option.some.inj both, placed⟩

end Rehearsal

end QuoteKeeper
