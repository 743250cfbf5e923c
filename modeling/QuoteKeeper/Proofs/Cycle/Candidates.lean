import QuoteKeeper.Proofs.Cycle.Proposing

/-!
# Which candidates come out of a pass

A pass goes through the priced pairs in order up to the first with candidates. Its batch is made for
one pair: at most a buy, then at most a sell, each on a side on which nothing rested and at the
price that the plan of its side gives.
-/

namespace QuoteKeeper

open Dialogue

/-- The only calls are for balances. -/
def OnlyBalances (calls : List Exchange) : Prop := ∀ x ∈ calls, x.1.kind = .balance

theorem onlyBalances_nil : OnlyBalances [] := fun _ member => nomatch member

theorem onlyBalances_single (currency : String) (r : Except CallError Decimal) :
    OnlyBalances [⟨.balance currency, r⟩] := by
  intro x member
  rw [List.mem_singleton.mp member]
  rfl

theorem OnlyBalances.append {a b : List Exchange} (ha : OnlyBalances a) (hb : OnlyBalances b) :
    OnlyBalances (a ++ b) := by
  intro x member
  rcases List.mem_append.mp member with h | h
  · exact ha x h
  · exact hb x h

namespace Proposal

/-- The boundary of a side, if it is a price. -/
def boundary? (settings : Settings) (reference : BidAsk) : Side → Option Decimal
  | .buy => buyBoundary? settings reference
  | .sell => sellBoundary? settings reference

/-- The plan of a side. -/
def plan? (settings : Settings) (book : BidAsk) (boundary : Decimal) : Side → Option SidePlan
  | .buy => SidePlan.buy? boundary book.bid settings.buy.placeDistance
  | .sell => SidePlan.sell? boundary book.ask settings.sell.placeDistance

/-- What is known of a candidate that is accepted for a pair. -/
structure Accepted (settings : Settings) (p : Pair) (prices : PairPrices) (orders : OpenOrders)
    (c : Candidate) : Prop where
  pair_eq : c.pair = p
  free : orders.has p c.side = false
  priced : ∃ book boundary, prices.book = some book ∧
    boundary? settings prices.reference c.side = some boundary ∧
    plan? settings book boundary c.side = some (.place c.price)

theorem BuyCourse.onlyBalances {settings : Settings} {p : Pair} {boundary bid target : Decimal}
    {o : SideOutcome} {calls : List Exchange}
    (course : BuyCourse settings p boundary bid target o calls) : OnlyBalances calls := by
  cases course with
  | noPrice | tooFar | noAmount => exact onlyBalances_nil
  | unread | noFunds | order => exact onlyBalances_single _ _

theorem SellCourse.onlyBalances {settings : Settings} {p : Pair} {boundary ask target : Decimal}
    {o : SideOutcome} {calls : List Exchange}
    (course : SellCourse settings p boundary ask target o calls) : OnlyBalances calls := by
  cases course with
  | noPrice | tooFar => exact onlyBalances_nil
  | unread | noFunds | order => exact onlyBalances_single _ _

theorem BuySideCourse.onlyBalances {settings : Settings} {p : Pair} {orders : OpenOrders}
    {boundary bid target : Decimal} {o : SideOutcome} {calls : List Exchange}
    (course : BuySideCourse settings p orders boundary bid target o calls) :
    OnlyBalances calls := by
  cases course with
  | resting | excluded => exact onlyBalances_nil
  | looked _ _ course => exact course.onlyBalances

theorem SellSideCourse.onlyBalances {settings : Settings} {p : Pair} {orders : OpenOrders}
    {boundary ask target : Decimal} {o : SideOutcome} {calls : List Exchange}
    (course : SellSideCourse settings p orders boundary ask target o calls) :
    OnlyBalances calls := by
  cases course with
  | resting => exact onlyBalances_nil
  | looked _ course => exact course.onlyBalances

theorem Course.onlyBalances {settings : Settings} {p : Pair} {prices : PairPrices}
    {orders : OpenOrders} {cooldown : Cooldown} {now : Instant} {o : PairOutcome}
    {calls : List Exchange} (course : Course settings p prices orders cooldown now o calls) :
    OnlyBalances calls := by
  cases course with
  | waiting | noBook | noBoundary | noSize => exact onlyBalances_nil
  | sides _ _ _ _ _ bought sold => exact bought.onlyBalances.append sold.onlyBalances

/-- A buy side yields no candidate or one, which is a buy at the planned price. -/
theorem BuySideCourse.candidates {settings : Settings} {p : Pair} {orders : OpenOrders}
    {boundary bid target : Decimal} {o : SideOutcome} {calls : List Exchange}
    (course : BuySideCourse settings p orders boundary bid target o calls) :
    o.candidates = [] ∨ ∃ c, o.candidates = [c] ∧ c.side = .buy ∧ c.pair = p ∧
      orders.has p .buy = false ∧
      SidePlan.buy? boundary bid settings.buy.placeDistance = some (.place c.price) := by
  cases course with
  | resting | excluded => exact Or.inl rfl
  | looked free _ course =>
    cases course with
    | noPrice | tooFar | noAmount | unread | noFunds => exact Or.inl rfl
    | order plan => exact Or.inr ⟨_, rfl, rfl, rfl, free, plan⟩

/-- A sell side yields no candidate or one, which is a sell at the planned price. -/
theorem SellSideCourse.candidates {settings : Settings} {p : Pair} {orders : OpenOrders}
    {boundary ask target : Decimal} {o : SideOutcome} {calls : List Exchange}
    (course : SellSideCourse settings p orders boundary ask target o calls) :
    o.candidates = [] ∨ ∃ c, o.candidates = [c] ∧ c.side = .sell ∧ c.pair = p ∧
      orders.has p .sell = false ∧
      SidePlan.sell? boundary ask settings.sell.placeDistance = some (.place c.price) := by
  cases course with
  | resting => exact Or.inl rfl
  | looked free course =>
    cases course with
    | noPrice | tooFar | unread | noFunds => exact Or.inl rfl
    | order plan => exact Or.inr ⟨_, rfl, rfl, rfl, free, plan⟩

theorem Course.candidates {settings : Settings} {p : Pair} {prices : PairPrices}
    {orders : OpenOrders} {cooldown : Cooldown} {now : Instant} {o : PairOutcome}
    {calls : List Exchange} (course : Course settings p prices orders cooldown now o calls) :
    (o.candidates.map (·.side)).Sublist [.buy, .sell] ∧
      ∀ c ∈ o.candidates, Accepted settings p prices orders c := by
  cases course with
  | waiting | noBook | noBoundary | noSize =>
    exact ⟨List.nil_sublist _, fun c member => nomatch member⟩
  | @sides book buyMax sellMin target buy sell _ _ due known highest lowest sized bought sold =>
    have buys : (buy.candidates.map (·.side)).Sublist [.buy] ∧
        ∀ c ∈ buy.candidates, Accepted settings p prices orders c := by
      obtain nothing | ⟨c, one, side, pair, free, plan⟩ := bought.candidates
      · simp [nothing]
      · refine ⟨by simp [one, side], ?_⟩
        intro d member
        rw [one, List.mem_singleton] at member
        subst member
        exact ⟨pair, side ▸ free, book, buyMax, known, side ▸ highest, side ▸ plan⟩
    have sells : (sell.candidates.map (·.side)).Sublist [.sell] ∧
        ∀ c ∈ sell.candidates, Accepted settings p prices orders c := by
      obtain nothing | ⟨c, one, side, pair, free, plan⟩ := sold.candidates
      · simp [nothing]
      · refine ⟨by simp [one, side], ?_⟩
        intro d member
        rw [one, List.mem_singleton] at member
        subst member
        exact ⟨pair, side ▸ free, book, sellMin, known, side ▸ lowest, side ▸ plan⟩
    refine ⟨?_, fun c member => ?_⟩
    · simpa [PairOutcome.candidates] using buys.1.append sells.1
    · rcases List.mem_append.mp member with h | h
      · exact buys.2 c h
      · exact sells.2 c h

end Proposal

namespace Progress

/-- How a pass over some pairs can go, from the action times on. -/
inductive PassCourse (settings : Settings) (prices : Prices) (orders : OpenOrders)
    (now : Instant) : List Pair → Cooldown → Pass → List Exchange → Prop
  | nil {cooldown : Cooldown} : PassCourse settings prices orders now [] cooldown { cooldown } []
  | unpriced {p : Pair} {rest : List Pair} {cooldown : Cooldown} {pass : Pass}
      {calls : List Exchange} (missing : prices.get? p = none)
      (tail : PassCourse settings prices orders now rest cooldown pass calls) :
      PassCourse settings prices orders now (p :: rest) cooldown pass calls
  | without {p : Pair} {rest : List Pair} {cooldown : Cooldown} {pass : Pass} {o : PairOutcome}
      {pairPrices : PairPrices} {calls more : List Exchange}
      (known : prices.get? p = some pairPrices)
      (head : Proposal.Course settings p pairPrices orders cooldown now o calls)
      (nothing : o.candidates = [])
      (tail : PassCourse settings prices orders now rest cooldown pass more) :
      PassCourse settings prices orders now (p :: rest) cooldown
        { pass with skips := o.skips + pass.skips, failures := o.failures + pass.failures }
        (calls ++ more)
  | accepted {p : Pair} {rest : List Pair} {cooldown : Cooldown} {o : PairOutcome}
      {pairPrices : PairPrices} {calls : List Exchange}
      (known : prices.get? p = some pairPrices)
      (head : Proposal.Course settings p pairPrices orders cooldown now o calls)
      (nonempty : o.candidates ≠ []) :
      PassCourse settings prices orders now (p :: rest) cooldown
        { skips := o.skips + { count := rest.countP fun q => (prices.get? q).isSome }
          failures := o.failures
          batch := o.candidates
          cooldown := cooldown.recordOrder p now }
        calls

theorem propose_course {settings : Settings} {prices : Prices} {orders : OpenOrders}
    {now : Instant} {pairs : List Pair} {cooldown : Cooldown} {t : Transcript} {pass : Pass}
    (path : Path (propose settings prices orders now pairs cooldown) t pass) :
    t.references = [] ∧ PassCourse settings prices orders now pairs cooldown pass t.calls := by
  induction pairs generalizing cooldown t pass with
  | nil =>
    obtain ⟨rfl, rfl⟩ := path_pure_iff.mp path
    exact ⟨rfl, .nil⟩
  | cons p rest ih =>
    rw [propose] at path
    split at path
    next missing =>
      obtain ⟨unasked, tail⟩ := ih path
      exact ⟨unasked, .unpriced missing tail⟩
    next pairPrices known =>
      obtain ⟨first, o, last, rfl, evaluates, goesOn⟩ := path_bind_iff.mp path
      obtain ⟨unasked, head⟩ := Proposal.outcome_course evaluates
      by_cases empty : o.candidates.isEmpty = true
      · simp only [empty, if_true, Proposal.stamp] at goesOn
        obtain ⟨second, others, end_, rfl, proposes, ends⟩ := path_bind_iff.mp goesOn
        obtain ⟨rfl, rfl⟩ := path_pure_iff.mp ends
        obtain ⟨silent, tail⟩ := ih proposes
        refine ⟨by simp [unasked, silent], ?_⟩
        simpa using PassCourse.without known head (List.isEmpty_iff.mp empty) tail
      · simp only [empty, Proposal.stamp] at goesOn
        obtain ⟨rfl, rfl⟩ := path_pure_iff.mp goesOn
        refine ⟨by simp [unasked], ?_⟩
        have nonempty : o.candidates ≠ [] := fun nothing => empty (List.isEmpty_iff.mpr nothing)
        simpa using (.accepted known head nonempty :
          PassCourse settings prices orders now (p :: rest) cooldown _ _)

theorem PassCourse.onlyBalances {settings : Settings} {prices : Prices} {orders : OpenOrders}
    {now : Instant} {pairs : List Pair} {cooldown : Cooldown} {pass : Pass}
    {calls : List Exchange}
    (course : PassCourse settings prices orders now pairs cooldown pass calls) :
    OnlyBalances calls := by
  induction course with
  | nil => exact onlyBalances_nil
  | unpriced missing tail ih => exact ih
  | without known head nothing tail ih => exact head.onlyBalances.append ih
  | accepted known head nonempty => exact head.onlyBalances

/-- A batch is made for one pair at one set of prices, with at most one candidate on a side. -/
theorem PassCourse.batch {settings : Settings} {prices : Prices} {orders : OpenOrders}
    {now : Instant} {pairs : List Pair} {cooldown : Cooldown} {pass : Pass}
    {calls : List Exchange}
    (course : PassCourse settings prices orders now pairs cooldown pass calls) :
    (pass.batch.map (·.side)).Sublist [.buy, .sell] ∧ (pass.batch = [] ∨
      ∃ p ∈ pairs, ∃ pairPrices, prices.get? p = some pairPrices ∧
        ∀ c ∈ pass.batch, Proposal.Accepted settings p pairPrices orders c) := by
  induction course with
  | nil => exact ⟨List.nil_sublist _, Or.inl rfl⟩
  | unpriced missing tail ih =>
    obtain ⟨sides, nothing | ⟨q, member, found⟩⟩ := ih
    · exact ⟨sides, Or.inl nothing⟩
    · exact ⟨sides, Or.inr ⟨q, List.mem_cons_of_mem _ member, found⟩⟩
  | without known head nothing tail ih =>
    obtain ⟨sides, nothing | ⟨q, member, found⟩⟩ := ih
    · exact ⟨sides, Or.inl nothing⟩
    · exact ⟨sides, Or.inr ⟨q, List.mem_cons_of_mem _ member, found⟩⟩
  | accepted known head nonempty =>
    exact ⟨head.candidates.1, Or.inr ⟨_, List.mem_cons_self, _, known, head.candidates.2⟩⟩

end Progress

end QuoteKeeper
