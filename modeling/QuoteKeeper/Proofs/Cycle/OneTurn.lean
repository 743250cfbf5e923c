import QuoteKeeper.Proofs.Cycle.Accounts
import QuoteKeeper.Proofs.Cycle.Taking

/-!
# One pair has its turn

A cycle that proposes looks at the pairs with a valid reference in the order of the settings, up to
the first one that has candidates. It asks for nothing that concerns a later pair, and whatever
becomes of the candidates, no other pair is tried. So all orders of a cycle are for one pair.
-/

namespace QuoteKeeper

open Dialogue

/-- A check of the budget that gives something back gives some of the batch. -/
def Honest (calls : List Exchange) : Prop :=
  ∀ batch allOrNone adjusted, ⟨.budgetAdjust batch allOrNone, .ok adjusted⟩ ∈ calls →
    adjusted.Sublist batch

def isHonest : Exchange → Bool
  | ⟨.budgetAdjust batch _, .ok adjusted⟩ => adjusted.isSublist batch
  | _ => true

theorem honest_iff {calls : List Exchange} : calls.all isHonest = true ↔ Honest calls := by
  rw [List.all_eq_true]
  constructor
  · intro all batch allOrNone adjusted member
    exact List.isSublist_iff_sublist.mp (all _ member)
  · rintro honest ⟨c, r⟩ member
    cases c with
    | budgetAdjust batch allOrNone =>
      cases r with
      | error e => rfl
      | ok adjusted => exact List.isSublist_iff_sublist.mpr (honest _ _ _ member)
    | topOfBook | openOrders | balance | cancel | place => rfl

instance (calls : List Exchange) : Decidable (Honest calls) := decidable_of_iff _ honest_iff

namespace Transcript

def place? : Exchange → Option Candidate
  | ⟨.place c, _⟩ => some c
  | _ => none

/-- The candidates that are called to be placed, in order. -/
def places (t : Transcript) : List Candidate := t.calls.filterMap place?

/-- The calls for balances. -/
def balances (t : Transcript) : List Exchange :=
  t.calls.filter fun x => decide (x.1.kind = .balance)

theorem places_eq_nil {calls : List Exchange} (others : ∀ x ∈ calls, x.1.kind ≠ .place) :
    calls.filterMap place? = [] := by
  apply List.filterMap_eq_nil_iff.mpr
  rintro ⟨c, r⟩ member
  cases c with
  | place c => exact absurd rfl (others _ member)
  | topOfBook | openOrders | balance | cancel | budgetAdjust => rfl

theorem balances_eq_nil {calls : List Exchange} (others : ∀ x ∈ calls, x.1.kind ≠ .balance) :
    calls.filter (fun x => decide (x.1.kind = .balance)) = [] := by
  apply List.filter_eq_nil_iff.mpr
  intro x member
  simpa using others x member

end Transcript

namespace Batch

open Transcript

theorem Placed.places {cs : List Candidate} {result : BatchResult} {calls : List Exchange}
    (placed : Placed cs result calls) : calls.filterMap place? = cs := by
  induction placed with
  | nil => rfl
  | done id rest ih => exact congrArg (_ :: ·) ih
  | failed e rest ih => exact congrArg (_ :: ·) ih

/-- If the check gives back some of the batch, what is placed is nothing or the batch. -/
theorem Course.places {batch : List Candidate} {result : BatchResult} {calls : List Exchange}
    (course : Course batch result calls) (honest : Honest calls) :
    calls.filterMap place? = [] ∨ calls.filterMap place? = batch := by
  cases course with
  | empty nothing => exact Or.inl rfl
  | unchecked nonempty e => exact Or.inl rfl
  | rejected nonempty cut => exact Or.inl rfl
  | @placed adjusted result calls nonempty whole all =>
    have given := honest batch true adjusted List.mem_cons_self
    have same : adjusted = batch := given.eq_of_length whole
    right
    rw [← same]
    exact all.places

end Batch

namespace PairOutcome

/-- The skips of some pairs, before those that follow. -/
def skipsOf (outcomes : List PairOutcome) (later : SkipCounts) : SkipCounts :=
  outcomes.foldr (fun o skips => o.skips + skips) later

/-- The same for the balances that could not be read. -/
def failuresOf (outcomes : List PairOutcome) (later : Nat) : Nat :=
  outcomes.foldr (fun o failures => o.failures + failures) later

/-- A pair that is looked at is not put off. -/
theorem skips_count (o : PairOutcome) : o.skips.count = 0 := by
  cases o with
  | waiting | noBook | noBoundary | noSize => rfl
  | sides buy sell =>
    have none : ∀ side : SideOutcome, side.skips.count = 0 := by
      intro side
      cases side with
      | order | resting | excluded | tooFar | noFunds | noPrice | unread => rfl
    change buy.skips.count + sell.skips.count = 0
    rw [none, none]

theorem skipsOf_count (outcomes : List PairOutcome) (later : SkipCounts) :
    (skipsOf outcomes later).count = later.count := by
  induction outcomes with
  | nil => rfl
  | cons o outcomes ih =>
    change o.skips.count + (skipsOf outcomes later).count = later.count
    rw [skips_count, ih, Nat.zero_add]

end PairOutcome

namespace Progress

open Transcript PairOutcome

/-- Pairs that come to nothing, with what becomes of them and the calls it takes: one without a
valid reference is passed over, any other is looked at, always from the same action times, and has
no candidates. -/
inductive Fruitless (settings : Settings) (prices : Prices) (orders : OpenOrders)
    (cooldown : Cooldown) (now : Instant) : List Pair → List PairOutcome → List Exchange → Prop
  | nil : Fruitless settings prices orders cooldown now [] [] []
  | unpriced {p : Pair} {rest : List Pair} {outcomes : List PairOutcome} {calls : List Exchange}
      (missing : prices.get? p = none)
      (others : Fruitless settings prices orders cooldown now rest outcomes calls) :
      Fruitless settings prices orders cooldown now (p :: rest) outcomes calls
  | tried {p : Pair} {q : PairPrices} {rest : List Pair} {o : PairOutcome}
      {outcomes : List PairOutcome} {calls more : List Exchange}
      (known : prices.get? p = some q)
      (goes : Goes (Proposal.outcome settings p q orders cooldown now) calls o)
      (nothing : o.candidates = [])
      (others : Fruitless settings prices orders cooldown now rest outcomes more) :
      Fruitless settings prices orders cooldown now (p :: rest) (o :: outcomes) (calls ++ more)

/-- How a pass over some pairs ends: with none that has candidates, or with the first. -/
inductive PassTurn (settings : Settings) (prices : Prices) (orders : OpenOrders)
    (cooldown : Cooldown) (now : Instant) : List Pair → Pass → List Exchange → Prop
  | nobody {pairs : List Pair} {outcomes : List PairOutcome} {calls : List Exchange}
      (all : Fruitless settings prices orders cooldown now pairs outcomes calls) :
      PassTurn settings prices orders cooldown now pairs
        { skips := skipsOf outcomes {}, failures := failuresOf outcomes 0, cooldown } calls
  | first {before after : List Pair} {p : Pair} {q : PairPrices} {outcomes : List PairOutcome}
      {o : PairOutcome} {calls own : List Exchange}
      (earlier : Fruitless settings prices orders cooldown now before outcomes calls)
      (known : prices.get? p = some q)
      (head : Proposal.Course settings p q orders cooldown now o own)
      (nonempty : o.candidates ≠ []) :
      PassTurn settings prices orders cooldown now (before ++ p :: after)
        { skips :=
            skipsOf outcomes
              (o.skips + { count := after.countP fun q => (prices.get? q).isSome })
          failures := failuresOf outcomes o.failures
          batch := o.candidates
          cooldown := cooldown.recordOrder p now }
        (calls ++ own)

theorem PassCourse.turn {settings : Settings} {prices : Prices} {orders : OpenOrders}
    {now : Instant} {pairs : List Pair} {cooldown : Cooldown} {pass : Pass}
    {calls : List Exchange}
    (course : PassCourse settings prices orders now pairs cooldown pass calls) :
    PassTurn settings prices orders cooldown now pairs pass calls := by
  induction course with
  | nil => exact .nobody .nil
  | unpriced missing tail ih =>
    cases ih with
    | nobody all => exact .nobody (.unpriced missing all)
    | first earlier known head nonempty =>
      exact .first (.unpriced missing earlier) known head nonempty
  | without known head nothing tail ih =>
    cases ih with
    | nobody all => exact .nobody (.tried known head.goes nothing all)
    | @first before after _ _ _ _ _ _ earlier known' head' nonempty =>
      rw [← List.append_assoc, ← List.cons_append]
      exact .first (.tried known head.goes nothing earlier) known' head' nonempty
  | @accepted p rest _ _ _ _ known head nonempty =>
    rw [← List.nil_append (p :: rest)]
    exact .first .nil known head nonempty

end Progress

theorem Reading.Courses.found {asked : List (Pair × Option BidAsk)}
    {readings : List (Pair × Reading)} {calls : List Exchange}
    (courses : Courses asked readings calls) {p : Pair} {q : BidAsk}
    (told : (p, some q) ∈ asked) (valid : q.isValid = true) : ∃ v, (p, some v) ∈ readings := by
  induction courses with
  | nil => exact nomatch told
  | cons head tail ih =>
    rcases List.mem_cons.mp told with same | later
    · obtain ⟨rfl, rfl⟩ := Prod.mk.inj same
      cases head with
      | stale invalid =>
        rw [Option.any_some, valid] at invalid
        exact nomatch invalid
      | noBid | noAsk | whole => exact ⟨_, List.mem_cons_self⟩
    · obtain ⟨v, member⟩ := ih later
      exact ⟨v, List.mem_cons_of_mem _ member⟩

/-- The prices are of the pairs with a valid reference. -/
theorem Reading.Courses.priced {asked : List (Pair × Option BidAsk)}
    {readings : List (Pair × Reading)} {calls : List Exchange}
    (courses : Courses asked readings calls) (p : Pair) :
    (Prices.ofReadings readings).get? p ≠ none ↔
      ∃ q, (p, some q) ∈ asked ∧ q.isValid = true := by
  constructor
  · intro known
    obtain ⟨q, found⟩ := Option.ne_none_iff_exists'.mp known
    exact ⟨q.reference, courses.valid (Prices.mem_of_get? found)⟩
  · rintro ⟨q, told, valid⟩ missing
    obtain ⟨v, member⟩ := courses.found told valid
    apply Table.get?_ofList_eq_none_iff.mp missing
    exact List.mem_map.mpr ⟨(p, v), List.mem_filterMap.mpr ⟨_, member, rfl⟩, rfl⟩

namespace Progress

open Transcript PairOutcome

/-- What a cycle has skipped before it proposes. -/
def skipsBefore (settings : Settings) (prices : Prices) (orders : OpenOrders) : SkipCounts :=
  { staleReference := prices.stale.length } +
      { invalidPrice := (CancelPlan.unprofitable settings prices orders).unjudged.length } +
    { invalidPrice := (CancelPlan.outbid settings prices orders).unjudged.length }

/-- What a cycle that proposes has done and counted, and the action times it leaves: no pair has
candidates, or the first that has some gets its turn and those after it are put off. -/
inductive OneTurn (settings : Settings) (prices : Prices) (orders : OpenOrders)
    (cooldown : Cooldown) (now : Instant) (t : Transcript) (s : CycleSummary) : Cooldown → Prop
  | nobody {outcomes : List PairOutcome} {calls : List Exchange}
      (all : Fruitless settings prices orders cooldown now settings.pairs outcomes calls)
      (asked : t.balances = calls) (unchecked : t.batches = []) (unplaced : t.places = [])
      (proposed : s.proposals = 0)
      (skipped : s.skips = skipsBefore settings prices orders + skipsOf outcomes {})
      (counted : s.skips.count = 0)
      (failures : s.externalFailures = prices.bookFailures + failuresOf outcomes 0) :
      OneTurn settings prices orders cooldown now t s cooldown
  | first {before after : List Pair} {p : Pair} {q : PairPrices} {outcomes : List PairOutcome}
      {o : PairOutcome} {calls own : List Exchange} (order : settings.pairs = before ++ p :: after)
      (earlier : Fruitless settings prices orders cooldown now before outcomes calls)
      (known : prices.get? p = some q)
      (goes : Goes (Proposal.outcome settings p q orders cooldown now) own o)
      (nonempty : o.candidates ≠ []) (alone : ∀ c ∈ o.candidates, c.pair = p)
      (sides : (o.candidates.map (·.side)).Sublist [.buy, .sell])
      (asked : t.balances = calls ++ own) (checked : t.batches = [o.candidates])
      (placed : t.places = [] ∨ t.places = o.candidates)
      (proposed : s.proposals = o.candidates.length)
      (skipped : s.skips = skipsBefore settings prices orders +
        skipsOf outcomes (o.skips + { count := after.countP fun q => (prices.get? q).isSome }))
      (counted : s.skips.count = after.countP fun q => (prices.get? q).isSome)
      (failures : s.externalFailures = prices.bookFailures + failuresOf outcomes o.failures +
        tally [.budgetAdjust] hasFailed t.calls) :
      OneTurn settings prices orders cooldown now t s (cooldown.recordOrder p now)

/-- What the calls of a cycle that proposes show. -/
structure Proposing (pass : Pass) (result : BatchResult) (balances : List Exchange)
    (t : Transcript) : Prop where
  asked : t.balances = balances
  checked : t.batches = if pass.batch = [] then [] else [pass.batch]
  placed : t.places = [] ∨ t.places = pass.batch
  unchecked : result.externalFailures = tally [.budgetAdjust] hasFailed t.calls

/-- A cycle that proposes asks for balances in its pass and nowhere else. -/
theorem asked_balances {batch : List Candidate} {result : BatchResult} {orders : List RestingOrder}
    {reads balances acts : List Exchange} {t : Transcript}
    (made : t.calls = ⟨.openOrders, .ok orders⟩ :: (reads ++ (balances ++ acts)))
    (read : ∀ x ∈ reads, x.1.kind = .topOfBook) (only : OnlyBalances balances)
    (course : Batch.Course batch result acts) : t.balances = balances := by
  have all : balances.filter (fun x => decide (x.1.kind = .balance)) = balances := by
    apply List.filter_eq_self.mpr
    intro x member
    exact decide_eq_true (only x member)
  rw [Transcript.balances, made, List.filter_cons_of_neg Bool.false_ne_true,
    List.filter_append, List.filter_append, balances_eq_nil (others_of_kind read (by decide)),
    balances_eq_nil (course.others (by decide) (by decide)), all, List.nil_append,
    List.append_nil]

theorem proposing {pass : Pass} {result : BatchResult} {orders : List RestingOrder}
    {reads balances acts : List Exchange} {t : Transcript}
    (made : t.calls = ⟨.openOrders, .ok orders⟩ :: (reads ++ (balances ++ acts)))
    (read : ∀ x ∈ reads, x.1.kind = .topOfBook) (only : OnlyBalances balances)
    (course : Batch.Course pass.batch result acts) (honest : Honest t.calls) :
    Proposing pass result balances t := by
  have begins : t.calls = (⟨.openOrders, .ok orders⟩ :: (reads ++ balances)) ++ acts := by
    rw [made, ← List.append_assoc]
    rfl
  have looks : Looks (⟨.openOrders, .ok orders⟩ :: (reads ++ balances)) :=
    List.forall_mem_cons.mpr ⟨List.mem_cons_self, List.forall_mem_append.mpr
      ⟨looks_of_kind read (by decide), looks_of_kind only (by decide)⟩⟩
  constructor
  · exact asked_balances made read only course
  · rw [batches, begins, List.filterMap_append, batches_eq_nil (looks.others (by decide)),
      List.nil_append]
    exact course.batches
  · rw [places, begins, List.filterMap_append, places_eq_nil (looks.others (by decide)),
      List.nil_append]
    apply course.places
    intro batch allOrNone adjusted member
    apply honest batch allOrNone
    rw [begins]
    exact List.mem_append_right _ member
  · rw [begins, tally_append, tally_of_others, Nat.zero_add]
    · exact course.reckoned.2.2.1
    · intro x member listed
      exact looks.others (by decide) x member (List.mem_singleton.mp listed)

/-- The phases of a cycle that proposes, from what was read. -/
theorem PhasesCourse.oneTurn {settings : Settings} {prices : Prices} {orders : OpenOrders}
    {now : Instant} {cycle : Nat} {cooldown : Cooldown} {s : Progress}
    {found : List RestingOrder} {reads calls : List Exchange} {t : Transcript}
    (phases : PhasesCourse settings prices orders now
      { summary := opening cycle prices, cooldown } .done s calls)
    (made : t.calls = ⟨.openOrders, .ok found⟩ :: (reads ++ calls))
    (read : ∀ x ∈ reads, x.1.kind = .topOfBook) (honest : Honest t.calls) :
    OneTurn settings prices orders cooldown now t (s.concluded .done).summary
      (s.concluded .done).cooldown := by
  cases phases with
  | @proposed pass result balances acts nothing nothing' passed placed =>
    have shows := proposing made read passed.onlyBalances placed honest
    have turn := passed.turn
    have skipped : ∀ skips, (skipsBefore settings prices orders + skips).count = skips.count := by
      intro skips
      exact Nat.zero_add skips.count
    generalize same : settings.pairs = pairs at turn
    cases turn with
    | @nobody pairs outcomes calls all =>
      subst same
      have unplaced : t.places = [] := by
        rcases shows.placed with none | none
        · exact none
        · exact none
      have unchecked : result.externalFailures = 0 := by
        cases placed with
        | empty nothing => rfl
        | unchecked nonempty | rejected nonempty | placed nonempty => exact absurd rfl nonempty
      refine .nobody all shows.asked shows.checked unplaced rfl rfl ?_ ?_
      · exact (skipped _).trans (skipsOf_count outcomes {})
      · change prices.bookFailures + failuresOf outcomes 0 + result.externalFailures = _
        rw [unchecked, Nat.add_zero]
    | @first earlierPairs after p q outcomes o calls own earlier known head nonempty =>
      refine .first same earlier known head.goes nonempty ?_ head.candidates.1 shows.asked ?_
        shows.placed rfl rfl ?_ ?_
      · intro c member
        exact (head.candidates.2 c member).pair_eq
      · rw [shows.checked, if_neg nonempty]
      · refine (skipped _).trans ((skipsOf_count outcomes _).trans ?_)
        change o.skips.count + after.countP _ = _
        rw [skips_count, Nat.zero_add]
      · rw [← shows.unchecked]
        rfl

theorem Course.oneTurn {settings : Settings} {cycle : Nat} {cooldown : Cooldown} {now : Instant}
    {t : Transcript} {s : Progress} (course : Course settings cycle cooldown now t s)
    (reached : s.summary.outcome = .completed) (honest : Honest t.calls) :
    ∃ orders prices, t.openOrders? = some orders ∧
      (readings? settings.pairs t).map Prices.ofReadings = some prices ∧
      (∀ p, prices.get? p ≠ none ↔ ∃ q, (p, some q) ∈ t.references ∧ q.isValid = true) ∧
      OneTurn settings prices ⟨settings.pairs, orders⟩ cooldown now t s.summary s.cooldown ∧
      s.summary.cancels = 0 ∧ s.summary.cancelFailures = 0 ∧
      s.summary.ordersPlaced + s.summary.placeFailures + s.summary.budgetRejected ≤
        s.summary.proposals := by
  have settled := course.reckoned.1.settled
  cases course with
  | starting | aborted => exact nomatch reached
  | @ran orders readings reads calls p s feed made order read shown phases announced =>
    cases phases with
    | unprofitable | outbid => exact nomatch reached
    | proposed nothing nothing' passed placed =>
      refine ⟨orders, Prices.ofReadings readings, openOrders?_eq made, ?_, read.priced, ?_, ?_, rfl,
        ?_⟩
      · rw [shown, Option.map_some]
      · exact (PhasesCourse.proposed nothing nothing' passed placed).oneTurn made read.kind honest
      · simp [concluded, withBatch, withCancels, countCancels, opening, CycleSummary.cancels,
          nothing, nothing']
      · split at settled
        · exact Nat.le_of_eq settled.symm
        · obtain ⟨placed, refused, rejected⟩ := settled
          rw [placed, refused, rejected]
          exact Nat.zero_le _

end Progress

namespace Keeper

/-- A cycle that is not stopped before it proposes gives one pair its turn at most, the first in
the order of the settings that has a valid reference and candidates. The pairs before it are looked
at in vain, those after it are only counted, and what is placed is for it, whatever becomes of
that. -/
theorem cycle_oneTurn {k k' : Keeper} {now : Instant} {t : Transcript} {s : CycleSummary}
    (path : Path (k.cycle now) t (s, k')) (reached : s.outcome = .completed)
    (honest : Honest t.calls) :
    ∃ orders prices, t.openOrders? = some orders ∧
      (Progress.readings? k.settings.pairs t).map Prices.ofReadings = some prices ∧
      (∀ p, prices.get? p ≠ none ↔ ∃ q, (p, some q) ∈ t.references ∧ q.isValid = true) ∧
      Progress.OneTurn k.settings prices ⟨k.settings.pairs, orders⟩ k.cooldown now t s
        k'.cooldown ∧
      s.cancels = 0 ∧ s.cancelFailures = 0 ∧
      s.ordersPlaced + s.placeFailures + s.budgetRejected ≤ s.proposals := by
  obtain ⟨progress, course, rfl, rfl⟩ := cycle_course path
  exact course.oneTurn reached honest

/-- The first pair has no book, the second one its turn, and although both of its orders are refused
the third one is put off. -/
theorem cycle_oneTurn_row : ∃ s k' orders prices,
    Path (Keeper.smallRow.cycle (Span.ofSeconds 5)) Rehearsal.rowTranscript (s, k') ∧
      s.outcome = .completed ∧ s.placeFailures = 2 ∧ s.skips.count = 1 ∧
      Rehearsal.rowTranscript.places.map (fun c => (c.pair.base, c.side)) =
        [("X", .buy), ("X", .sell)] ∧
      Progress.OneTurn Keeper.smallRow.settings prices ⟨Keeper.smallRow.settings.pairs, orders⟩
        Keeper.smallRow.cooldown (Span.ofSeconds 5) Rehearsal.rowTranscript s k'.cooldown ∧
      s.ordersPlaced + s.placeFailures + s.budgetRejected ≤ s.proposals := by
  obtain ⟨s, k', path, reached, refused, counted⟩ := Rehearsal.rowTranscript_path
  have placed : Rehearsal.rowTranscript.places.map (fun c => (c.pair.base, c.side)) =
      [("X", .buy), ("X", .sell)] := by
    decide +kernel
  have honest : Honest Rehearsal.rowTranscript.calls := by
    decide +kernel
  obtain ⟨orders, prices, -, -, -, turn, -, -, settled⟩ := cycle_oneTurn path reached honest
  exact ⟨s, k', orders, prices, path, reached, refused, counted, placed, turn, settled⟩

end Keeper

end QuoteKeeper
