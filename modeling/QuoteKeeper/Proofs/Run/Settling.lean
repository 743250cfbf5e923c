import QuoteKeeper.Proofs.Cycle.Effects
import QuoteKeeper.Proofs.Run.Fulfilled

/-!
# Runs settle

In a market that does not change a run of cycles comes to rest. At most two of its cycles cancel,
the first of them what is unprofitable and the other what is outbid; from then on nothing is to be
canceled, whatever is added. Every cycle that places takes up a side that was free, so there are at
most as many of these as there are sides. That no order is placed and then canceled needs two
conditions on the ratios of each side, and prices that are computed exactly.
-/

namespace QuoteKeeper

open Decimal Dialogue

namespace Turn

/-- The cycle has called to cancel or to place an order. -/
def acts (turn : Turn) : Bool :=
  turn.transcript.calls.any fun x => decide (x.1.kind = .cancel) || decide (x.1.kind = .place)

/-- The cycle has called to cancel an order. -/
def cancels (turn : Turn) : Bool :=
  turn.transcript.calls.any fun x => decide (x.1.kind = .cancel)

variable {turn : Turn}

theorem cancels_eq_false (uncanceled : ∀ x ∈ turn.transcript.calls, x.1.kind ≠ .cancel) :
    turn.cancels = false :=
  List.any_eq_false.mpr fun x member => by simpa using uncanceled x member

theorem acts_eq_false (looks : Looks turn.transcript.calls) : turn.acts = false :=
  List.any_eq_false.mpr fun x member => by
    have uncanceled : x.1.kind ≠ .cancel := looks.others (by decide) x member
    have unplaced : x.1.kind ≠ .place := looks.others (by decide) x member
    simp [uncanceled, unplaced]

end Turn

/-- The effects of some cycles, one after the other. -/
inductive Effects (settings : Settings) (prices : Pair → Option PairPrices) :
    List RestingOrder → List Turn → List RestingOrder → Prop
  | nil (orders : List RestingOrder) : Effects settings prices orders [] orders
  | cons {before between after : List RestingOrder} {turn : Turn} {turns : List Turn}
      (effect : Effect settings prices turn.transcript.calls before between)
      (later : Effects settings prices between turns after) :
      Effects settings prices before (turn :: turns) after

/-- No order is canceled after one was placed. -/
def PlacesLast (calls : List Exchange) : Prop :=
  calls.Pairwise fun x y => x.1.kind = .place → y.1.kind ≠ .cancel

theorem placesLast_of_uncanceled {calls : List Exchange}
    (uncanceled : ∀ x ∈ calls, x.1.kind ≠ .cancel) : PlacesLast calls :=
  List.pairwise_of_forall_mem_list fun _ _ y member _ => uncanceled y member

theorem PlacesLast.after {first rest : List Exchange} (last : PlacesLast rest)
    (unplaced : ∀ x ∈ first, x.1.kind ≠ .place) : PlacesLast (first ++ rest) :=
  List.pairwise_append.mpr
    ⟨List.pairwise_of_forall_mem_list fun x member _ _ placed => absurd placed (unplaced x member),
      last, fun x member _ _ placed => absurd placed (unplaced x member)⟩

namespace Effects

variable {settings : Settings} {prices : Pair → Option PairPrices}
  {before after : List RestingOrder} {turns : List Turn}

/-- Once there is nothing to cancel, nothing is canceled any more, and each cycle that acts takes up
a side that was free. -/
theorem calm (effects : Effects settings prices before turns after)
    (kept : CancelsLeft settings prices 0 before) :
    (∀ x ∈ callsOf turns, x.1.kind ≠ .cancel) ∧
      turns.countP Turn.acts ≤ openSides settings.pairs before := by
  induction effects with
  | nil orders => exact ⟨fun x member => (nomatch member), Nat.zero_le _⟩
  | @cons before between after turn turns effect later ih =>
    cases effect with
    | nothing looks same =>
      subst same
      obtain ⟨uncanceled, few⟩ := ih kept
      rw [List.countP_cons, Turn.acts_eq_false looks]
      exact ⟨List.forall_mem_append.mpr ⟨looks.others (by decide), uncanceled⟩, few⟩
    | canceled unplaced fewer busy nearer => exact absurd kept busy
    | placed uncanceled calm still fuller =>
      obtain ⟨others, few⟩ := ih still
      refine ⟨List.forall_mem_append.mpr ⟨uncanceled, others⟩, ?_⟩
      rw [List.countP_cons]
      split
      · omega
      · omega

/-- With `n` cycles left that can cancel, at most these cancel, and beyond them at most as many act
as there are sides. -/
theorem settle (effects : Effects settings prices before turns after)
    (ids : (before.map (·.id)).Nodup) {n : Nat} (left : CancelsLeft settings prices n before) :
    turns.countP Turn.acts ≤ 2 * settings.pairs.length + n ∧ turns.countP Turn.cancels ≤ n ∧
      PlacesLast (callsOf turns) := by
  induction effects generalizing n with
  | nil orders => exact ⟨Nat.zero_le _, Nat.zero_le _, List.Pairwise.nil⟩
  | @cons before between after turn turns effect later ih =>
    have whole := Effects.cons effect later
    cases effect with
    | nothing looks same =>
      subst same
      obtain ⟨few, rare, last⟩ := ih ids left
      rw [List.countP_cons, List.countP_cons, Turn.acts_eq_false looks,
        Turn.cancels_eq_false (looks.others (by decide))]
      exact ⟨few, rare, last.after (looks.others (by decide))⟩
    | canceled unplaced fewer busy nearer =>
      cases n with
      | zero => exact absurd left busy
      | succ m =>
        obtain ⟨few, rare, last⟩ := ih (ids.sublist (fewer.map _)) (nearer ids m left)
        refine ⟨?_, ?_, last.after unplaced⟩
        · rw [List.countP_cons]
          split
          · omega
          · omega
        · rw [List.countP_cons]
          split
          · omega
          · omega
    | placed uncanceled calm still fuller =>
      obtain ⟨never, few⟩ := whole.calm calm
      have rare : (turn :: turns).countP Turn.cancels = 0 :=
        List.countP_eq_zero.mpr fun other member => by
          rw [Turn.cancels_eq_false fun x calls =>
            never x (List.mem_flatMap.mpr ⟨other, member, calls⟩)]
          exact Bool.false_ne_true
      have sides := openSides_le settings.pairs before
      exact ⟨by omega, by omega, placesLast_of_uncanceled never⟩

end Effects

/-- With the default settings every order that is placed is one that is kept. -/
theorem Settings.default_steady : Settings.default.Steady where
  valid := by decide +kernel
  distinct := by decide
  apart := by decide
  placed side := by
    cases side with
    | buy => decide +kernel
    | sell => decide +kernel
  near side := by
    cases side with
    | buy => decide +kernel
    | sell => decide +kernel

namespace Progress

/-- Where all listed pairs are of two currencies, so are all that a batch is checked for. -/
theorem Course.apart {settings : Settings} {cycle : Nat} {cooldown : Cooldown} {now : Instant}
    {t : Transcript} {s : Progress} (course : Course settings cycle cooldown now t s)
    (apart : ∀ p ∈ settings.pairs, p.base ≠ p.quote) : ∀ x ∈ t.calls, x.1.Apart := by
  have other : ∀ {calls : List Exchange}, (∀ x ∈ calls, x.1.kind ≠ .budgetAdjust) →
      ∀ x ∈ calls, x.1.Apart := by
    intro calls unchecked x member
    obtain ⟨c, r⟩ := x
    cases c with
    | budgetAdjust batch all => exact absurd rfl (unchecked _ member)
    | topOfBook | openOrders | balance | cancel | place => trivial
  cases course with
  | starting feed quiet =>
    rw [quiet.1]
    exact fun x member => nomatch member
  | aborted feed unasked made =>
    rw [made]
    exact List.forall_mem_singleton.mpr trivial
  | ran feed made order read shown phases announced =>
    rw [made]
    refine List.forall_mem_cons.mpr ⟨trivial, List.forall_mem_append.mpr
      ⟨other (others_of_kind read.kind (by decide)), ?_⟩⟩
    cases phases with
    | unprofitable nonempty canceled | outbid nothing nonempty canceled =>
      exact other (others_of_kind canceled.kind (by decide))
    | @proposed pass result balances calls nothing nothing' passed placed =>
      refine List.forall_mem_append.mpr
        ⟨other (others_of_kind passed.onlyBalances (by decide)), ?_⟩
      have checked : ∀ r, (⟨.budgetAdjust pass.batch true, r⟩ : Exchange).1.Apart :=
        fun _ c proposed => by
          obtain ⟨p, listed, q, -, accepted⟩ :=
            passed.batch.2.resolve_left (List.ne_nil_of_mem proposed)
          exact (accepted c proposed).pair_eq ▸ apart p listed
      cases placed with
      | empty => exact fun x member => nomatch member
      | unchecked | rejected => exact List.forall_mem_singleton.mpr (checked _)
      | placed nonempty whole all =>
        exact List.forall_mem_cons.mpr
          ⟨checked _, other (others_of_kind all.kind (by decide))⟩

end Progress

namespace Rehearsal

variable {k : Keeper} {r : Rehearsal} {now : Instant} {times : List Instant}

/-- The prices of a pair in the rehearsal. -/
def prices? (r : Rehearsal) : Pair → Option PairPrices := r.venue.prices? r.feed.book

/-- No balance that any of the cycles asks for is beyond what can be counted. -/
def BalancesRead : Keeper → Rehearsal → List Instant → Prop
  | _, _, [] => True
  | k, r, now :: later =>
    (∀ done currency, ¬ Broken r (k.cycle now) done (.balance currency)) ∧
      ∀ s k' r', r.converse (k.cycle now) = (.ok (s, k'), r') → BalancesRead k' r' later

/-- Cycles that have come to their end have read all their balances. -/
theorem balancesRead_of_cycles {last : List Turn × Keeper × Rehearsal}
    (done : cycles k r times = .ok last) : BalancesRead k r times := by
  induction times generalizing k r last with
  | nil => trivial
  | cons now later ih =>
    rw [cycles] at done
    split at done
    next => cases done
    next s k₁ r₁ ended =>
      constructor
      · intro _ _ broken
        obtain ⟨e, wrong⟩ := broken.result
        rw [converse] at ended
        rw [ended] at wrong
        cases wrong
      · intro s' k' r' again
        cases others : cycles k₁ r₁ later with
        | error e =>
          rw [others] at done
          cases done
        | ok last =>
          rw [ended] at again
          cases again
          exact ih others

theorem cycle_apart (faultless : r.Faultless)
    (apart : ∀ p ∈ k.settings.pairs, p.base ≠ p.quote) {calls : List Call}
    (written : (r.converse (k.cycle now)).2.minutes.calls = r.minutes.calls ++ calls) :
    ∀ c ∈ calls, c.Apart := by
  intro c member
  rcases faultless.run (k.cycle now) with ⟨⟨s, k'⟩, ended⟩ | ⟨done, d, broken⟩
  · obtain ⟨progress, course, -⟩ := Keeper.cycle_course (path_transcript ended.result)
    rw [List.append_cancel_left (written.symm.trans ended.calls)] at member
    obtain ⟨x, called, rfl⟩ := List.mem_map.mp member
    exact course.apart apart x called
  · obtain ⟨t, ⟨s, k'⟩, reply, more, path, made⟩ := broken.next
    obtain ⟨progress, course, -⟩ := Keeper.cycle_course path
    have here : ∀ x ∈ done ++ [⟨d, reply⟩], x.1.Apart := fun x called => by
      refine course.apart apart x (made ▸ ?_)
      simpa [or_assoc] using Or.inl (b := x ∈ more) (List.mem_append.mp called)
    rw [List.append_cancel_left (written.symm.trans broken.calls)] at member
    rcases List.mem_append.mp member with early | last
    · obtain ⟨x, called, rfl⟩ := List.mem_map.mp early
      exact here x (List.mem_append_left _ called)
    · rw [List.mem_singleton.mp last]
      exact here ⟨d, reply⟩ (List.mem_append_right _ List.mem_cons_self)

/-- A rehearsed cycle whose balances can be read comes to its end and has its effect; the prices
stay as they are. -/
theorem cycle_effect (steady : k.settings.Steady) (faultless : r.Faultless)
    (exactly : ∀ p ∈ k.settings.pairs, ∀ q ∈ r.prices? p, ExactPrices k.settings q)
    (read : ∀ done currency, ¬ Broken r (k.cycle now) done (.balance currency)) :
    ∃ s k' r', r.converse (k.cycle now) = (.ok (s, k'), r') ∧ k'.settings = k.settings ∧
      r'.Faultless ∧ r'.prices? = r.prices? ∧
      Effect k.settings r.prices? ((k.cycle now).transcript world r).calls r.venue.orders
        r'.venue.orders := by
  obtain ⟨s, k', ended, -⟩ := cycle_complete faultless steady.valid
    (fun done currency broken => absurd broken (read done currency))
    fun calls written => cycle_apart faultless steady.apart written
  have path := path_transcript ended.result
  obtain ⟨progress, course, -⟩ := Keeper.cycle_course path
  obtain ⟨book, told⟩ := references_told (k.cycle now) r
  refine ⟨s, k', _, Prod.ext ended.result rfl, Keeper.cycle_settings path, ended.faultless, ?_,
    course.effect steady faultless.working exactly told ended.answers⟩
  funext p
  change Paper.prices? _ _ p = _
  rw [prices?, Paper.prices?, Paper.prices?, ← ended.answers.market.books, ← book]
  rfl

/-- Rehearsed cycles whose balances can be read come to their end, with one effect after the
other. -/
theorem cycles_effects (steady : k.settings.Steady) (faultless : r.Faultless)
    (exactly : ∀ p ∈ k.settings.pairs, ∀ q ∈ r.prices? p, ExactPrices k.settings q)
    (read : BalancesRead k r times) :
    ∃ turns k' r', cycles k r times = .ok (turns, k', r') ∧
      Effects k.settings r.prices? r.venue.orders turns r'.venue.orders := by
  induction times generalizing k r with
  | nil => exact ⟨[], k, r, rfl, .nil _⟩
  | cons now later ih =>
    obtain ⟨here, others⟩ := read
    obtain ⟨s, k₁, r₁, ended, settings, faultless₁, prices, effect⟩ :=
      cycle_effect steady faultless exactly here
    obtain ⟨turns, k', r', done, effects⟩ := ih (k := k₁) (r := r₁) (settings ▸ steady) faultless₁
      (by rwa [settings, prices]) (others s k₁ r₁ ended)
    rw [settings, prices] at effects
    refine ⟨⟨now, (k.cycle now).transcript world r⟩ :: turns, k', r', ?_, .cons effect effects⟩
    rw [cycles, ended]
    change Except.map _ (cycles k₁ r₁ later) = _
    rw [done]
    rfl

/-- The default settings are steady. With steady settings, in a market that does not change, at a
venue without faults whose resting orders have distinct ids, and with prices that are all computed
exactly: however many cycles there are, and at whatever times, all come to their end, at most two of
them cancel, at most two more than there are sides of pairs act at all, and no order is canceled
after one was placed. -/
theorem cycles_settle : Settings.default.Steady ∧
    ∀ {k : Keeper} {r : Rehearsal} {times : List Instant}, k.settings.Steady → r.Faultless →
      (r.venue.orders.map (·.id)).Nodup →
      (∀ p ∈ k.settings.pairs, ∀ q ∈ r.prices? p, ExactPrices k.settings q) →
      BalancesRead k r times →
      ∃ turns k' r', cycles k r times = .ok (turns, k', r') ∧
        turns.countP Turn.acts ≤ 2 * k.settings.pairs.length + 2 ∧
        turns.countP Turn.cancels ≤ 2 ∧
        (callsOf turns).Pairwise fun x y => x.1.kind = .place → y.1.kind ≠ .cancel := by
  refine ⟨Settings.default_steady, fun {k r times} steady faultless ids exactly read => ?_⟩
  obtain ⟨turns, k', r', done, effects⟩ := cycles_effects steady faultless exactly read
  have left : CancelsLeft k.settings r.prices? 2 r.venue.orders :=
    ⟨fun less => absurd less (by decide), fun less => absurd less (by decide)⟩
  obtain ⟨few, rare, last⟩ := effects.settle ids left
  exact ⟨turns, k', r', done, few, rare, last⟩

/-- The small market with a buy above the reference and a sell far from the book. -/
def unsettled : Rehearsal :=
  let r := (small.seed { pair := ⟨"X", "BTC"⟩, side := .buy, price := 0.0011, amount := 1.0 }).2
  (r.seed { pair := ⟨"X", "BTC"⟩, side := .sell, price := 0.0013, amount := 1.0 }).2

theorem small_steady : Keeper.small.settings.Steady where
  valid := by decide +kernel
  distinct := by decide
  apart := by decide
  placed := Settings.default_steady.placed
  near := Settings.default_steady.near

/-- Of five cycles there the first cancels the buy, the next cancels the sell, the third places a
buy and a sell, and the others do nothing. -/
theorem cycles_settle_small : ∃ turns k' r',
    cycles Keeper.small unsettled ([5, 6, 11, 12, 30].map Span.ofSeconds) =
      .ok (turns, k', r') ∧
    turns.map (fun turn => (turn.cancels, turn.acts)) =
      [(true, true), (true, true), (false, true), (false, false), (false, false)] ∧
    turns.countP Turn.acts ≤ 2 * 1 + 2 ∧ turns.countP Turn.cancels ≤ 2 ∧
    (callsOf turns).Pairwise fun x y => x.1.kind = .place → y.1.kind ≠ .cancel := by
  have shown : (cycles Keeper.small unsettled
      ([5, 6, 11, 12, 30].map Span.ofSeconds)).toOption.map
        (fun last => last.1.map fun turn => (turn.cancels, turn.acts)) =
      some [(true, true), (true, true), (false, true), (false, false), (false, false)] := by
    decide +kernel
  cases ended : cycles Keeper.small unsettled ([5, 6, 11, 12, 30].map Span.ofSeconds) with
  | error e =>
    rw [ended] at shown
    exact nomatch shown
  | ok last =>
    have faultless : unsettled.Faultless := ⟨fun _ => rfl, rfl, rfl⟩
    have exactly : ∀ p ∈ Keeper.small.settings.pairs, ∀ q ∈ unsettled.prices? p,
        ExactPrices Keeper.small.settings q := by
      decide +kernel
    obtain ⟨turns, k', r', done, few, rare, order⟩ := cycles_settle.2 small_steady faultless
      (by decide +kernel) exactly (balancesRead_of_cycles ended)
    rw [ended] at shown done
    obtain rfl := Except.ok.inj done
    exact ⟨turns, k', r', rfl, Option.some.inj shown, few, rare, order⟩

end Rehearsal

end QuoteKeeper
