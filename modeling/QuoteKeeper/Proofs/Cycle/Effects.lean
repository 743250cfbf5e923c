import QuoteKeeper.Proofs.Cycle.Affordable
import QuoteKeeper.Proofs.Cycle.Keeping
import QuoteKeeper.Proofs.Cycle.Observed
import QuoteKeeper.Proofs.Run.OneEach

/-!
# What a cycle does to the orders of a venue left alone

At a venue that is left alone a cycle reads the prices that the venue and the feed have, and all its
calls are answered. Then it leaves the orders as they are, or it takes all orders away that one of
the two cancel plans holds, or it adds a batch. Canceling brings the orders nearer to those that
nothing is canceled of; a batch is only added to such orders, leaves them such, and takes up sides
that were free.
-/

namespace QuoteKeeper

open Decimal Dialogue

/-! ### The prices of a venue left alone -/

/-- The prices of a pair at the venue, with a feed that has these references. -/
def Paper.prices? (v : Paper) (feed : ReferenceBook) (p : Pair) : Option PairPrices :=
  ((feed.get? p).filter (·.isValid)).map fun reference => { reference, book := v.books.get? p }

namespace Reading

variable {v : Paper} {feed : ReferenceBook} {p : Pair}

theorem topOfBook_told {calls : List Exchange} (working : v.failing = [])
    (told : Proposal.Told v calls) {side : Side} :
    ∀ reply, ⟨.topOfBook p side, reply⟩ ∈ calls → reply = (v.topOfBook p side).reply := by
  intro reply member
  obtain ⟨answered, answer, same⟩ := told _ member
  change v.answer (.topOfBook p side) = .ok answered at answer
  rw [Paper.answer_working working] at answer
  obtain rfl := Except.ok.inj answer
  exact same.symm

/-- What is read of a pair is its valid reference with the book of the venue. -/
theorem Course.market {r : Option BidAsk} {reading : Reading} {calls : List Exchange}
    (course : Course p r reading calls) (working : v.failing = [])
    (told : Proposal.Told v calls) : reading =
      (r.filter (·.isValid)).map fun reference => { reference, book := v.books.get? p } := by
  have bid : ∀ reply, ⟨.topOfBook p .buy, reply⟩ ∈ calls → _ := topOfBook_told working told
  have ask : ∀ reply, ⟨.topOfBook p .sell, reply⟩ ∈ calls → _ := topOfBook_told working told
  cases course with
  | stale invalid =>
    cases r with
    | none => rfl
    | some q =>
      have not : q.isValid = false := invalid
      simp [Option.filter_some, not]
  | noBid valid e =>
    have failed := bid _ List.mem_cons_self
    cases books : v.books.get? p with
    | none => simp [Option.filter_some, valid]
    | some book => simp [Paper.topOfBook, books] at failed
  | noAsk valid price e =>
    have found := bid _ List.mem_cons_self
    have failed := ask _ (List.mem_cons_of_mem _ List.mem_cons_self)
    cases books : v.books.get? p with
    | none => simp [Paper.topOfBook, books, Paper.refused] at found
    | some book => simp [Paper.topOfBook, books] at failed
  | whole valid bidPrice askPrice =>
    have found := bid _ List.mem_cons_self
    have found' := ask _ (List.mem_cons_of_mem _ List.mem_cons_self)
    cases books : v.books.get? p with
    | none => simp [Paper.topOfBook, books, Paper.refused] at found
    | some book =>
      simp only [Paper.topOfBook, books, Except.ok.injEq] at found found'
      simp [Option.filter_some, valid, found, found']

theorem Courses.market {asked : List (Pair × Option BidAsk)} {readings : List (Pair × Reading)}
    {calls : List Exchange} (courses : Courses asked readings calls) (working : v.failing = [])
    (told : Proposal.Told v calls) (references : ∀ e ∈ asked, e.2 = feed.get? e.1) :
    ∀ e ∈ readings, e.2 = v.prices? feed e.1 := by
  induction courses with
  | nil => exact fun e member => nomatch member
  | cons head tail ih =>
    obtain ⟨here, others⟩ := List.forall_mem_append.mp told
    obtain ⟨asks, later⟩ := List.forall_mem_cons.mp references
    refine List.forall_mem_cons.mpr ⟨?_, ih others later⟩
    rw [Paper.prices?, ← asks]
    exact head.market working here

end Reading

/-- The prices that a cycle works with are those of the venue and the feed. -/
theorem Prices.get?_market {v : Paper} {feed : ReferenceBook}
    {asked : List (Pair × Option BidAsk)} {readings : List (Pair × Reading)}
    {calls : List Exchange} (courses : Reading.Courses asked readings calls)
    (working : v.failing = []) (told : Proposal.Told v calls)
    (references : ∀ e ∈ asked, e.2 = feed.get? e.1) (distinct : (asked.map (·.1)).Nodup)
    {p : Pair} (listed : p ∈ asked.map (·.1)) :
    (ofReadings readings).get? p = v.prices? feed p := by
  rw [← courses.keys] at distinct listed
  obtain ⟨⟨q, reading⟩, member, rfl⟩ := List.mem_map.mp listed
  rw [get?_ofReadings distinct member]
  exact courses.market working told references _ member

/-! ### Cancels and orders that go through -/

/-- An order that is canceled is gone, if ids are not given twice. -/
theorem Paper.cancel_gone {v : Paper} (ids : (v.orders.map (·.id)).Nodup) (o : RestingOrder) :
    o ∉ (v.cancel o.pair o.id).venue.orders := by
  rw [Paper.cancel]
  split
  next absent =>
    intro resting
    have other := List.findIdx?_eq_none_iff.mp absent o resting
    simp at other
  next i found =>
    intro resting
    obtain ⟨inside, matched, -⟩ := List.findIdx?_eq_some_iff_getElem.mp found
    obtain ⟨j, within, different, rfl⟩ := List.mem_eraseIdx_iff_getElem.mp resting
    obtain ⟨same, -⟩ := Bool.and_eq_true_iff.mp matched
    have one := List.inj_on_of_nodup_map ids (List.getElem_mem inside) (List.getElem_mem within)
      (of_decide_eq_true same)
    exact different ((List.Nodup.of_map _ ids).getElem_inj_iff.mp one.symm)

namespace Batch

variable {v w : Paper} {calls : List Exchange}

/-- All orders of a plan that is carried out are gone. -/
theorem Canceled.gone {ws : List Withdrawal} {failed : Nat}
    (canceled : Canceled ws calls failed) (answers : v.Answers calls w) (working : v.failing = [])
    (ids : (v.orders.map (·.id)).Nodup) : ∀ o ∈ ws.map (·.order), o ∉ w.orders := by
  induction canceled generalizing v with
  | nil => exact fun o member => nomatch member
  | @done x _ _ _ rest ih | @failed x _ _ _ _ rest ih =>
    obtain ⟨answered, answer, -, later⟩ := answers.of_cons
    have still := (Paper.answer_market answer).failing.trans working
    rw [Paper.answer_working working] at answer
    obtain rfl := Except.ok.inj answer
    have fewer := Paper.cancel_sublist v x.order.pair x.order.id
    have unplaced := others_of_kind (b := .place) rest.kind (by decide)
    refine List.forall_mem_cons.mpr ⟨fun resting => ?_, ih later still (ids.sublist (fewer.map _))⟩
    exact Paper.cancel_gone ids x.order ((later.serves.sublist unplaced).subset resting)

/-- The orders are those that the candidates have become. -/
structure Rested (cs : List Candidate) (new : List RestingOrder) : Prop where
  made : ∀ o ∈ new, ∃ c ∈ cs, ∃ id, o = c.rest id
  whole : ∀ c ∈ cs, ∃ id, c.rest id ∈ new

theorem rested_nil : Rested [] [] :=
  ⟨fun _ member => (nomatch member), fun _ member => nomatch member⟩

theorem Rested.cons {cs : List Candidate} {new : List RestingOrder} (rested : Rested cs new)
    (c : Candidate) (id : OrderId) : Rested (c :: cs) (c.rest id :: new) where
  made := List.forall_mem_cons.mpr ⟨⟨c, List.mem_cons_self, id, rfl⟩, fun o member =>
    (rested.made o member).imp fun _ found => ⟨List.mem_cons_of_mem _ found.1, found.2⟩⟩
  whole := List.forall_mem_cons.mpr ⟨⟨id, List.mem_cons_self⟩, fun d member =>
    (rested.whole d member).imp fun _ found => List.mem_cons_of_mem _ found⟩

theorem Placed.rested {cs : List Candidate} {result : BatchResult}
    (placed : Placed cs result calls) (answers : v.Answers calls w) (all : v.PlacesAll cs) :
    ∃ new, w.orders = v.orders ++ new ∧ Rested cs new := by
  induction placed generalizing v with
  | nil =>
    cases answers
    exact ⟨[], (List.append_nil _).symm, rested_nil⟩
  | @done c _ _ _ _ rest ih | @failed c _ _ _ _ rest ih =>
    obtain ⟨_, answered, answer, taken, others⟩ := all
    obtain ⟨_, same, -, later⟩ := answers.of_cons
    obtain rfl := Except.ok.inj (answer.symm.trans same)
    obtain ⟨new, after, rested⟩ := ih later others
    rcases Paper.answer_cases answer with ⟨-, e, wrong⟩ | serve
    · exact nomatch wrong.symm.trans taken
    · rcases Paper.place_venue serve with ⟨-, e, wrong⟩ | ⟨id, -, added⟩
      · exact nomatch wrong.symm.trans taken
      · refine ⟨c.rest id :: new, ?_, rested.cons c id⟩
        rw [after, added, List.append_assoc]
        rfl

/-- An affordable batch in currencies of its own comes to rest as a whole. -/
theorem Course.rested {batch : List Candidate} {result : BatchResult}
    (course : Course batch result calls) (answers : v.Answers calls w) (working : v.failing = [])
    (affords : ∀ c ∈ batch, v.Affords c) (distinct : (batch.map (·.currency)).Nodup) :
    ∃ new, w.orders = v.orders ++ new ∧ Rested batch new := by
  obtain ⟨all, placing, placed, later⟩ := course.passes answers working affords distinct
  exact placed.rested later all

end Batch

/-! ### The effect of a cycle -/

/-- How many sides of the pairs have no order. -/
def openSides (pairs : List Pair) (orders : List RestingOrder) : Nat :=
  (pairs.flatMap fun p => [(p, Side.buy), (p, Side.sell)]).countP fun s =>
    (RestingOrder.on orders s.1 s.2).isEmpty

theorem openSides_le (pairs : List Pair) (orders : List RestingOrder) :
    openSides pairs orders ≤ 2 * pairs.length := by
  refine List.countP_le_length.trans ?_
  simp [List.length_flatMap]
  omega

/-- An order on a side that was free leaves fewer sides open. -/
theorem openSides_lt {pairs : List Pair} {orders new : List RestingOrder} {o : RestingOrder}
    (listed : o.pair ∈ pairs) (free : RestingOrder.on orders o.pair o.side = [])
    (added : o ∈ new) : openSides pairs (orders ++ new) < openSides pairs orders := by
  have slot : (o.pair, o.side) ∈ pairs.flatMap fun p => [(p, Side.buy), (p, Side.sell)] := by
    refine List.mem_flatMap.mpr ⟨o.pair, listed, ?_⟩
    cases o.side with
    | buy => exact List.mem_cons_self
    | sell => exact List.mem_cons_of_mem _ List.mem_cons_self
  have fewer : ∀ slots : List (Pair × Side),
      (slots.countP fun s => (RestingOrder.on (orders ++ new) s.1 s.2).isEmpty) ≤
        slots.countP fun s => (RestingOrder.on orders s.1 s.2).isEmpty := fun slots =>
    List.countP_mono_left fun s _ empty => by
      rw [List.isEmpty_iff, RestingOrder.on, List.filter_append, List.append_eq_nil_iff] at empty
      exact List.isEmpty_iff.mpr empty.1
  have taken : (RestingOrder.on (orders ++ new) o.pair o.side).isEmpty = false :=
    List.isEmpty_eq_false_iff_exists_mem.mpr
      ⟨o, RestingOrder.mem_on.mpr ⟨List.mem_append_right _ added, rfl, rfl⟩⟩
  obtain ⟨first, rest, split⟩ := List.append_of_mem slot
  have left := fewer first
  have right := fewer rest
  simp only [openSides, split, List.countP_append, List.countP_cons, taken, free, List.isEmpty_nil,
    if_true, Bool.false_eq_true, if_false]
  omega

/-- At most so many cycles can cancel any of the orders at these prices: with one left none is
unprofitable, and with none left none is outbid either. -/
structure CancelsLeft (settings : Settings) (prices : Pair → Option PairPrices) (n : Nat)
    (orders : List RestingOrder) : Prop where
  profitable : n < 2 → ∀ o ∈ orders, ¬ o.Unprofitable settings prices
  kept : n < 1 → ∀ o ∈ orders, ¬ o.Outbid settings prices

/-- What a cycle with these calls has made of the orders. -/
inductive Effect (settings : Settings) (prices : Pair → Option PairPrices)
    (calls : List Exchange) (before after : List RestingOrder) : Prop
  | nothing (looks : Looks calls) (same : after = before)
  | canceled (unplaced : ∀ x ∈ calls, x.1.kind ≠ .place) (fewer : after.Sublist before)
      (busy : ¬ CancelsLeft settings prices 0 before)
      (nearer : (before.map (·.id)).Nodup → ∀ n, CancelsLeft settings prices (n + 1) before →
        CancelsLeft settings prices n after)
  | placed (uncanceled : ∀ x ∈ calls, x.1.kind ≠ .cancel)
      (calm : CancelsLeft settings prices 0 before) (still : CancelsLeft settings prices 0 after)
      (fuller : openSides settings.pairs after < openSides settings.pairs before)

/-- Settings with which every order that is placed is one that is kept. -/
structure Settings.Steady (settings : Settings) : Prop where
  valid : settings.check = .ok ()
  distinct : settings.pairs.Nodup
  apart : ∀ p ∈ settings.pairs, p.base ≠ p.quote
  placed : ∀ side, settings.KeepsPlaced side
  near : ∀ side, settings.KeepsNear side

theorem RestingOrder.unprofitable_congr {settings : Settings}
    {prices prices' : Pair → Option PairPrices}
    (same : ∀ p ∈ settings.pairs, prices p = prices' p) {o : RestingOrder} :
    o.Unprofitable settings prices ↔ o.Unprofitable settings prices' := by
  constructor
  · rintro ⟨listed, past⟩
    exact ⟨listed, same _ listed ▸ past⟩
  · rintro ⟨listed, past⟩
    exact ⟨listed, same _ listed ▸ past⟩

theorem RestingOrder.outbid_congr {settings : Settings}
    {prices prices' : Pair → Option PairPrices}
    (same : ∀ p ∈ settings.pairs, prices p = prices' p) {o : RestingOrder} :
    o.Outbid settings prices ↔ o.Outbid settings prices' := by
  constructor
  · rintro ⟨listed, behind⟩
    exact ⟨listed, same _ listed ▸ behind⟩
  · rintro ⟨listed, behind⟩
    exact ⟨listed, same _ listed ▸ behind⟩

theorem Paper.prices?_valid {v : Paper} {feed : ReferenceBook} {p : Pair} {q : PairPrices}
    (known : v.prices? feed p = some q) : q.reference.isValid = true := by
  obtain ⟨reference, found, rfl⟩ := Option.map_eq_some_iff.mp known
  exact (Option.filter_eq_some_iff.mp found).2

/-- Calls that only look do not change the effect. -/
theorem Effect.looked {settings : Settings} {prices : Pair → Option PairPrices}
    {first calls : List Exchange} {before after : List RestingOrder}
    (effect : Effect settings prices calls before after)
    (looks : Looks first) : Effect settings prices (first ++ calls) before after := by
  cases effect with
  | nothing later same => exact .nothing (List.forall_mem_append.mpr ⟨looks, later⟩) same
  | canceled unplaced fewer busy nearer =>
    exact .canceled (List.forall_mem_append.mpr ⟨looks.others (by decide), unplaced⟩) fewer busy
      nearer
  | placed uncanceled calm still fuller =>
    exact .placed (List.forall_mem_append.mpr ⟨looks.others (by decide), uncanceled⟩) calm still
      fuller

namespace Progress

variable {settings : Settings} {prices : Prices} {now : Instant} {feed : ReferenceBook}
  {s s' : Progress} {p : Phase} {calls : List Exchange} {v w : Paper}

/-- Nothing is canceled of what is added: what a pass proposes is kept at the prices it was proposed
at. -/
theorem PassCourse.kept {pairs : List Pair} {orders : OpenOrders} {cooldown : Cooldown}
    {pass : Pass} {balances : List Exchange} (steady : settings.Steady)
    (exactly : ∀ p ∈ settings.pairs, ∀ q ∈ v.prices? feed p, ExactPrices settings q)
    (same : ∀ p ∈ settings.pairs, prices.get? p = v.prices? feed p)
    (within : ∀ p ∈ pairs, p ∈ settings.pairs)
    (passed : PassCourse settings prices orders now pairs cooldown pass balances)
    {new : List RestingOrder} (rested : Batch.Rested pass.batch new) :
    CancelsLeft settings (v.prices? feed) 0 new := by
  have each : ∀ o ∈ new, ∃ p ∈ settings.pairs, ∃ q c id, v.prices? feed p = some q ∧
      Proposal.Accepted settings p q orders c ∧ o = c.rest id := by
    intro o member
    obtain ⟨c, proposed, id, rfl⟩ := rested.made o member
    obtain ⟨p, listed, q, known, accepted⟩ :=
      passed.batch.2.resolve_left (List.ne_nil_of_mem proposed)
    exact ⟨p, within p listed, q, c, id, same p (within p listed) ▸ known, accepted c proposed, rfl⟩
  constructor
  · rintro - o member ⟨-, q', found, past⟩
    obtain ⟨p, listed, q, c, id, known, accepted, rfl⟩ := each o member
    have pair : (c.rest id).pair = p := accepted.pair_eq
    obtain rfl := Option.some.inj (known.symm.trans (pair ▸ found))
    exact accepted.not_past (exactly p listed q known) (Paper.prices?_valid known)
      (steady.placed _) id past
  · rintro - o member ⟨-, book, found, behind⟩
    obtain ⟨p, listed, q, c, id, known, accepted, rfl⟩ := each o member
    have pair : (c.rest id).pair = p := accepted.pair_eq
    rw [pair, known] at found
    exact accepted.not_behind (exactly p listed q known) (steady.near _) found id behind

/-- What a pass proposes takes up a side that was free. -/
theorem PassCourse.fuller {pairs : List Pair} {orders : List RestingOrder} {cooldown : Cooldown}
    {pass : Pass} {balances : List Exchange} (within : ∀ p ∈ pairs, p ∈ settings.pairs)
    (passed : PassCourse settings prices ⟨settings.pairs, orders⟩ now pairs cooldown pass balances)
    (nonempty : pass.batch ≠ []) {new : List RestingOrder} (rested : Batch.Rested pass.batch new) :
    openSides settings.pairs (orders ++ new) < openSides settings.pairs orders := by
  obtain ⟨c, proposed⟩ := List.exists_mem_of_ne_nil _ nonempty
  obtain ⟨p, listed, q, -, accepted⟩ := passed.batch.2.resolve_left nonempty
  obtain ⟨id, resting⟩ := rested.whole c proposed
  have fine := accepted c proposed
  have pair : (c.rest id).pair = p := fine.pair_eq
  refine openSides_lt (pair ▸ within p listed) ?_ resting
  refine List.eq_nil_iff_forall_not_mem.mpr fun o member => ?_
  obtain ⟨old, here, side⟩ := RestingOrder.mem_on.mp member
  exact OpenOrders.not_mem_of_free (within p listed) fine.free old ⟨here.trans pair, side⟩

/-- The effect of a pass over orders none of which is to be canceled. -/
theorem PassCourse.effect {cooldown : Cooldown} {pass : Pass} {result : BatchResult}
    {balances : List Exchange} (steady : settings.Steady) (working : v.failing = [])
    (exactly : ∀ p ∈ settings.pairs, ∀ q ∈ v.prices? feed p, ExactPrices settings q)
    (same : ∀ p ∈ settings.pairs, prices.get? p = v.prices? feed p)
    (calm : CancelsLeft settings (v.prices? feed) 0 v.orders)
    (passed : PassCourse settings prices ⟨settings.pairs, v.orders⟩ now settings.pairs cooldown
      pass balances)
    (placed : Batch.Course pass.batch result calls) (answers : v.Answers (balances ++ calls) w) :
    Effect settings (v.prices? feed) (balances ++ calls) v.orders w.orders := by
  have looks := looks_of_kind passed.onlyBalances (by decide)
  obtain ⟨u, before, after⟩ := answers.split
  obtain ⟨rfl, told⟩ := before.look looks
  obtain ⟨affords, distinct⟩ := batch_affords steady.valid working passed (fun _ c proposed => by
    obtain ⟨p, listed, q, -, accepted⟩ :=
      passed.batch.2.resolve_left (List.ne_nil_of_mem proposed)
    exact (accepted c proposed).pair_eq ▸ steady.apart p listed) told
  obtain ⟨new, added, rested⟩ := placed.rested after working affords distinct
  refine Effect.looked ?_ looks
  by_cases empty : pass.batch = []
  · cases placed with
    | empty =>
      cases after
      exact .nothing (fun x member => nomatch member) rfl
    | unchecked nonempty | rejected nonempty | placed nonempty => exact absurd empty nonempty
  · have kept := passed.kept steady exactly same (fun _ listed => listed) rested
    rw [added]
    exact .placed (placed.others (by decide) (by decide)) calm
      ⟨fun less => List.forall_mem_append.mpr ⟨calm.profitable less, kept.profitable less⟩,
        fun less => List.forall_mem_append.mpr ⟨calm.kept less, kept.kept less⟩⟩
      (passed.fuller (fun _ listed => listed) empty rested)

/-- The effect of the phases of a cycle that works with the prices of the venue and the feed. -/
theorem PhasesCourse.effect (steady : settings.Steady) (working : v.failing = [])
    (exactly : ∀ p ∈ settings.pairs, ∀ q ∈ v.prices? feed p, ExactPrices settings q)
    (same : ∀ p ∈ settings.pairs, prices.get? p = v.prices? feed p)
    (phases : PhasesCourse settings prices ⟨settings.pairs, v.orders⟩ now s p s' calls)
    (answers : v.Answers calls w) :
    Effect settings (v.prices? feed) calls v.orders w.orders := by
  have unprofitable : ∀ o, o ∈ (CancelPlan.unprofitable settings prices
      ⟨settings.pairs, v.orders⟩).withdrawals.map (·.order) ↔
        o ∈ v.orders ∧ o.Unprofitable settings (v.prices? feed) := fun o =>
    CancelPlan.mem_unprofitable_iff.trans
      (and_congr_right fun _ => RestingOrder.unprofitable_congr same)
  have outbid : ∀ o, o ∈ (CancelPlan.outbid settings prices
      ⟨settings.pairs, v.orders⟩).withdrawals.map (·.order) ↔
        o ∈ v.orders ∧ o.Outbid settings (v.prices? feed) := fun o =>
    CancelPlan.mem_outbid_iff.trans (and_congr_right fun _ => RestingOrder.outbid_congr same)
  have first : ∀ {ws : List Withdrawal}, ws ≠ [] → ∃ o, o ∈ ws.map (·.order) := fun nonempty =>
    List.exists_mem_of_ne_nil _ fun nothing => nonempty (List.map_eq_nil_iff.mp nothing)
  cases phases with
  | unprofitable nonempty canceled =>
    have unplaced := others_of_kind (b := .place) canceled.kind (by decide)
    have fewer := answers.serves.sublist unplaced
    obtain ⟨bad, planned⟩ := first nonempty
    obtain ⟨resting, past⟩ := (unprofitable bad).mp planned
    refine .canceled unplaced fewer (fun calm => calm.profitable (by decide) bad resting past)
      fun ids n left => ⟨fun _ o stays past => ?_, fun last => ?_⟩
    · exact canceled.gone answers working ids o
        ((unprofitable o).mpr ⟨fewer.subset stays, past⟩) stays
    · exact absurd past (left.profitable (by omega) bad resting)
  | outbid nothing nonempty canceled =>
    have unplaced := others_of_kind (b := .place) canceled.kind (by decide)
    have fewer := answers.serves.sublist unplaced
    obtain ⟨bad, planned⟩ := first nonempty
    obtain ⟨resting, behind⟩ := (outbid bad).mp planned
    rw [nothing] at unprofitable
    refine .canceled unplaced fewer (fun calm => calm.kept (by decide) bad resting behind)
      fun ids n left => ⟨fun _ o stays past => ?_, fun _ o stays behind => ?_⟩
    · exact nomatch (unprofitable o).mpr ⟨fewer.subset stays, past⟩
    · exact canceled.gone answers working ids o
        ((outbid o).mpr ⟨fewer.subset stays, behind⟩) stays
  | proposed nothing nothing' passed placed =>
    rw [nothing] at unprofitable
    rw [nothing'] at outbid
    have calm : CancelsLeft settings (v.prices? feed) 0 v.orders :=
      ⟨fun _ o resting past => (nomatch (unprofitable o).mpr ⟨resting, past⟩),
        fun _ o resting behind => nomatch (outbid o).mpr ⟨resting, behind⟩⟩
    exact passed.effect steady working exactly same calm placed answers

/-- The effect of a cycle at a venue that is left alone, with a feed that is not changed. -/
theorem Course.effect {cycle : Nat} {cooldown : Cooldown} {t : Transcript}
    (course : Course settings cycle cooldown now t s) (steady : settings.Steady)
    (working : v.failing = [])
    (exactly : ∀ p ∈ settings.pairs, ∀ q ∈ v.prices? feed p, ExactPrices settings q)
    (references : ∀ e ∈ t.references, e.2 = feed.get? e.1) (answers : v.Answers t.calls w) :
    Effect settings (v.prices? feed) t.calls v.orders w.orders := by
  cases course with
  | starting feed quiet =>
    rw [quiet.1] at answers ⊢
    cases answers
    exact .nothing (fun x member => nomatch member) rfl
  | @aborted e feed unasked made =>
    rw [made] at answers ⊢
    have looks : Looks [⟨.openOrders, .error e⟩] :=
      List.forall_mem_singleton.mpr List.mem_cons_self
    obtain ⟨rfl, -⟩ := answers.look looks
    exact .nothing looks rfl
  | @ran orders readings reads calls p s running made order read shown phases announced =>
    have looks : Looks (⟨.openOrders, .ok orders⟩ :: reads) :=
      List.forall_mem_cons.mpr ⟨List.mem_cons_self, looks_of_kind read.kind (by decide)⟩
    rw [made, ← List.cons_append] at answers ⊢
    obtain ⟨u, before, after⟩ := answers.split
    obtain ⟨rfl, told⟩ := before.look looks
    obtain ⟨opened, others⟩ := List.forall_mem_cons.mp told
    obtain ⟨answered, answer, reply⟩ := opened
    rw [Paper.answer_working working] at answer
    obtain rfl := Except.ok.inj answer
    obtain rfl := Except.ok.inj reply
    have distinct := order ▸ steady.distinct
    refine Effect.looked (PhasesCourse.effect steady working exactly (fun p listed => ?_) phases
      after) looks
    exact Prices.get?_market read working others references distinct (order ▸ listed)

end Progress

end QuoteKeeper
