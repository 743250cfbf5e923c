import QuoteKeeper.Keeper.Cycle
import QuoteKeeper.Proofs.Dialogue.Transcript

/-!
# What a proposal does

The ways in which one side of a pair, a whole pair, and a pass over the pairs can go, each with the
balances that are read on it. Nothing but balances is asked for. An accepted candidate is on its
pair, on a side on which nothing rested, and at the price that the plan of its side gives; of two
candidates the first is a buy and the second a sell.
-/

namespace QuoteKeeper

open Dialogue

namespace Proposal

/-- How a buy side that is free can go. -/
inductive BuyCourse (settings : Settings) (p : Pair) (boundary bid target : Decimal) :
    SideOutcome → List Exchange → Prop
  | noPrice (plan : SidePlan.buy? boundary bid settings.buy.placeDistance = none) :
      BuyCourse settings p boundary bid target .noPrice []
  | tooFar (plan : SidePlan.buy? boundary bid settings.buy.placeDistance = some .tooFar) :
      BuyCourse settings p boundary bid target .tooFar []
  | noAmount {price : Decimal}
      (plan : SidePlan.buy? boundary bid settings.buy.placeDistance = some (.place price))
      (unusable : (buyAmount? settings target price).bind Decimal.positive? = none) :
      BuyCourse settings p boundary bid target .noPrice []
  | unread {price amount : Decimal}
      (plan : SidePlan.buy? boundary bid settings.buy.placeDistance = some (.place price))
      (size : (buyAmount? settings target price).bind Decimal.positive? = some amount)
      (e : CallError) :
      BuyCourse settings p boundary bid target .unread [⟨.balance p.quote, .error e⟩]
  | noFunds {price amount available : Decimal}
      (plan : SidePlan.buy? boundary bid settings.buy.placeDistance = some (.place price))
      (size : (buyAmount? settings target price).bind Decimal.positive? = some amount)
      (short : allowedAmount available price ≤ amount) :
      BuyCourse settings p boundary bid target .noFunds [⟨.balance p.quote, .ok available⟩]
  | order {price amount available : Decimal}
      (plan : SidePlan.buy? boundary bid settings.buy.placeDistance = some (.place price))
      (size : (buyAmount? settings target price).bind Decimal.positive? = some amount)
      (enough : ¬ allowedAmount available price ≤ amount) :
      BuyCourse settings p boundary bid target (.order { pair := p, side := .buy, price, amount })
        [⟨.balance p.quote, .ok available⟩]

/-- How a sell side that is free can go. -/
inductive SellCourse (settings : Settings) (p : Pair) (boundary ask target : Decimal) :
    SideOutcome → List Exchange → Prop
  | noPrice (plan : SidePlan.sell? boundary ask settings.sell.placeDistance = none) :
      SellCourse settings p boundary ask target .noPrice []
  | tooFar (plan : SidePlan.sell? boundary ask settings.sell.placeDistance = some .tooFar) :
      SellCourse settings p boundary ask target .tooFar []
  | unread {price : Decimal}
      (plan : SidePlan.sell? boundary ask settings.sell.placeDistance = some (.place price))
      (e : CallError) :
      SellCourse settings p boundary ask target .unread [⟨.balance p.base, .error e⟩]
  | noFunds {price amount : Decimal}
      (plan : SidePlan.sell? boundary ask settings.sell.placeDistance = some (.place price))
      (short : amount < target) :
      SellCourse settings p boundary ask target .noFunds [⟨.balance p.base, .ok amount⟩]
  | order {price amount : Decimal}
      (plan : SidePlan.sell? boundary ask settings.sell.placeDistance = some (.place price))
      (enough : ¬ amount < target) :
      SellCourse settings p boundary ask target (.order { pair := p, side := .sell, price, amount })
        [⟨.balance p.base, .ok amount⟩]

/-- How the buy side of a pair can go. -/
inductive BuySideCourse (settings : Settings) (p : Pair) (orders : OpenOrders)
    (boundary bid target : Decimal) : SideOutcome → List Exchange → Prop
  | resting (taken : orders.has p .buy = true) :
      BuySideCourse settings p orders boundary bid target .resting []
  | excluded (free : orders.has p .buy = false) (paused : settings.excludesBuy p = true) :
      BuySideCourse settings p orders boundary bid target .excluded []
  | looked {o : SideOutcome} {calls : List Exchange} (free : orders.has p .buy = false)
      (bought : settings.excludesBuy p = false)
      (course : BuyCourse settings p boundary bid target o calls) :
      BuySideCourse settings p orders boundary bid target o calls

/-- How the sell side of a pair can go. -/
inductive SellSideCourse (settings : Settings) (p : Pair) (orders : OpenOrders)
    (boundary ask target : Decimal) : SideOutcome → List Exchange → Prop
  | resting (taken : orders.has p .sell = true) :
      SellSideCourse settings p orders boundary ask target .resting []
  | looked {o : SideOutcome} {calls : List Exchange} (free : orders.has p .sell = false)
      (course : SellCourse settings p boundary ask target o calls) :
      SellSideCourse settings p orders boundary ask target o calls

/-- The highest price of a buy, if it is one. -/
def buyBoundary? (settings : Settings) (reference : BidAsk) : Option Decimal :=
  (reference.bid.below? settings.buy.place).bind Decimal.positive?

/-- The lowest price of a sell, if it is one. -/
def sellBoundary? (settings : Settings) (reference : BidAsk) : Option Decimal :=
  (reference.ask.above? settings.sell.place).bind Decimal.positive?

/-- How a pair with a valid reference can go. -/
inductive Course (settings : Settings) (p : Pair) (prices : PairPrices) (orders : OpenOrders)
    (cooldown : Cooldown) (now : Instant) : PairOutcome → List Exchange → Prop
  | waiting (early : cooldown.waits p now settings.reorder = true) :
      Course settings p prices orders cooldown now .waiting []
  | noBook (due : cooldown.waits p now settings.reorder = false) (missing : prices.book = none) :
      Course settings p prices orders cooldown now .noBook []
  | noBoundary {book : BidAsk} (due : cooldown.waits p now settings.reorder = false)
      (known : prices.book = some book)
      (unusable : buyBoundary? settings prices.reference = none ∨
        sellBoundary? settings prices.reference = none) :
      Course settings p prices orders cooldown now .noBoundary []
  | noSize {book : BidAsk} {buyMax sellMin : Decimal}
      (due : cooldown.waits p now settings.reorder = false) (known : prices.book = some book)
      (highest : buyBoundary? settings prices.reference = some buyMax)
      (lowest : sellBoundary? settings prices.reference = some sellMin)
      (unsized : settings.size? p.quote = none) :
      Course settings p prices orders cooldown now .noSize []
  | sides {book : BidAsk} {buyMax sellMin target : Decimal} {buy sell : SideOutcome}
      {buyCalls sellCalls : List Exchange}
      (due : cooldown.waits p now settings.reorder = false) (known : prices.book = some book)
      (highest : buyBoundary? settings prices.reference = some buyMax)
      (lowest : sellBoundary? settings prices.reference = some sellMin)
      (sized : settings.size? p.quote = some target)
      (bought : BuySideCourse settings p orders buyMax book.bid target buy buyCalls)
      (sold : SellSideCourse settings p orders sellMin book.ask target sell sellCalls) :
      Course settings p prices orders cooldown now (.sides buy sell) (buyCalls ++ sellCalls)

theorem without_path {line : LogLine} {outcome o : SideOutcome} {t : Transcript}
    (path : Path (without line outcome) t o) : t.Quiet ∧ o = outcome := by
  obtain ⟨rest, rfl, ends⟩ := path_log_iff.mp path
  obtain ⟨rfl, rfl⟩ := path_pure_iff.mp ends
  exact ⟨Transcript.quiet_nil.log _ _, rfl⟩

theorem accept_path {c : Candidate} {best boundary : Decimal} {o : SideOutcome} {t : Transcript}
    (path : Path (accept c best boundary) t o) : t.Quiet ∧ o = .order c := by
  obtain ⟨rest, rfl, ends⟩ := path_log_iff.mp path
  obtain ⟨rfl, rfl⟩ := path_pure_iff.mp ends
  exact ⟨Transcript.quiet_nil.log _ _, rfl⟩

theorem buySide_course {settings : Settings} {p : Pair} {boundary bid target : Decimal}
    {t : Transcript} {o : SideOutcome}
    (path : Path (buySide settings p boundary bid target) t o) :
    t.references = [] ∧ BuyCourse settings p boundary bid target o t.calls := by
  rw [buySide] at path
  split at path
  next plan =>
    obtain ⟨quiet, rfl⟩ := without_path path
    exact ⟨quiet.2, quiet.1 ▸ .noPrice plan⟩
  next plan =>
    obtain ⟨quiet, rfl⟩ := without_path path
    exact ⟨quiet.2, quiet.1 ▸ .tooFar plan⟩
  next price plan =>
    simp only [buyAt] at path
    split at path
    next unusable =>
      obtain ⟨quiet, rfl⟩ := without_path path
      exact ⟨quiet.2, quiet.1 ▸ .noAmount plan unusable⟩
    next amount size =>
      obtain ⟨reply, rest, rfl, goesOn⟩ := path_call_iff.mp path
      cases reply with
      | error e =>
        obtain ⟨quiet, rfl⟩ := without_path goesOn
        rw [Transcript.references_call, Transcript.calls_call, quiet.1]
        exact ⟨quiet.2, .unread plan size e⟩
      | ok available =>
        rw [Transcript.references_call, Transcript.calls_call]
        by_cases short : allowedAmount available price ≤ amount
        · simp only [short, if_true] at goesOn
          obtain ⟨quiet, rfl⟩ := without_path goesOn
          rw [quiet.1]
          exact ⟨quiet.2, .noFunds plan size short⟩
        · simp only [short, if_false] at goesOn
          obtain ⟨quiet, rfl⟩ := accept_path goesOn
          rw [quiet.1]
          exact ⟨quiet.2, .order plan size short⟩

theorem sellSide_course {settings : Settings} {p : Pair} {boundary ask target : Decimal}
    {t : Transcript} {o : SideOutcome}
    (path : Path (sellSide settings p boundary ask target) t o) :
    t.references = [] ∧ SellCourse settings p boundary ask target o t.calls := by
  rw [sellSide] at path
  split at path
  next plan =>
    obtain ⟨quiet, rfl⟩ := without_path path
    exact ⟨quiet.2, quiet.1 ▸ .noPrice plan⟩
  next plan =>
    obtain ⟨quiet, rfl⟩ := without_path path
    exact ⟨quiet.2, quiet.1 ▸ .tooFar plan⟩
  next price plan =>
    obtain ⟨reply, rest, rfl, goesOn⟩ := path_call_iff.mp path
    cases reply with
    | error e =>
      obtain ⟨quiet, rfl⟩ := without_path goesOn
      rw [Transcript.references_call, Transcript.calls_call, quiet.1]
      exact ⟨quiet.2, .unread plan e⟩
    | ok amount =>
      change Decimal at amount
      rw [Transcript.references_call, Transcript.calls_call]
      by_cases short : amount < target
      · simp only [short, if_true] at goesOn
        obtain ⟨quiet, rfl⟩ := without_path goesOn
        rw [quiet.1]
        exact ⟨quiet.2, .noFunds plan short⟩
      · simp only [short, if_false] at goesOn
        obtain ⟨quiet, rfl⟩ := accept_path goesOn
        rw [quiet.1]
        exact ⟨quiet.2, .order plan short⟩

/-- The buy side, with an order that may rest there. -/
def buyTurn (settings : Settings) (p : Pair) (orders : OpenOrders) (buyMax bid target : Decimal) :
    Dialogue SideOutcome :=
  if orders.has p .buy then without (restingLine p .buy) .resting
  else if settings.excludesBuy p then pure .excluded
  else buySide settings p buyMax bid target

/-- The sell side, with an order that may rest there. -/
def sellTurn (settings : Settings) (p : Pair) (orders : OpenOrders) (sellMin ask target : Decimal) :
    Dialogue SideOutcome :=
  if orders.has p .sell then without (restingLine p .sell) .resting
  else sellSide settings p sellMin ask target

theorem sides_eq (settings : Settings) (p : Pair) (orders : OpenOrders) (book : BidAsk)
    (buyMax sellMin target : Decimal) :
    sides settings p orders book buyMax sellMin target = (do
      let buy ← buyTurn settings p orders buyMax book.bid target
      let sell ← sellTurn settings p orders sellMin book.ask target
      return .sides buy sell) := by
  rw [sides, buyTurn, sellTurn]
  by_cases sold : orders.has p .sell = true
  · simp only [sold, if_true]
    split
    · rfl
    · split <;> rfl
  · simp only [sold]
    split
    · rfl
    · split <;> rfl

theorem buyTurn_course {settings : Settings} {p : Pair} {orders : OpenOrders}
    {buyMax bid target : Decimal} {t : Transcript} {o : SideOutcome}
    (path : Path (buyTurn settings p orders buyMax bid target) t o) :
    t.references = [] ∧ BuySideCourse settings p orders buyMax bid target o t.calls := by
  rw [buyTurn] at path
  split at path
  next taken =>
    obtain ⟨quiet, rfl⟩ := without_path path
    exact ⟨quiet.2, quiet.1 ▸ .resting taken⟩
  next free =>
    rw [Bool.not_eq_true] at free
    split at path
    next paused =>
      obtain ⟨rfl, rfl⟩ := path_pure_iff.mp path
      exact ⟨rfl, .excluded free paused⟩
    next bought =>
      obtain ⟨unasked, course⟩ := buySide_course path
      exact ⟨unasked, .looked free (Bool.not_eq_true _ ▸ bought) course⟩

theorem sellTurn_course {settings : Settings} {p : Pair} {orders : OpenOrders}
    {sellMin ask target : Decimal} {t : Transcript} {o : SideOutcome}
    (path : Path (sellTurn settings p orders sellMin ask target) t o) :
    t.references = [] ∧ SellSideCourse settings p orders sellMin ask target o t.calls := by
  rw [sellTurn] at path
  split at path
  next taken =>
    obtain ⟨quiet, rfl⟩ := without_path path
    exact ⟨quiet.2, quiet.1 ▸ .resting taken⟩
  next free =>
    rw [Bool.not_eq_true] at free
    obtain ⟨unasked, course⟩ := sellSide_course path
    exact ⟨unasked, .looked free course⟩

theorem outcome_course {settings : Settings} {p : Pair} {prices : PairPrices} {orders : OpenOrders}
    {cooldown : Cooldown} {now : Instant} {t : Transcript} {o : PairOutcome}
    (path : Path (outcome settings p prices orders cooldown now) t o) :
    t.references = [] ∧ Course settings p prices orders cooldown now o t.calls := by
  rw [outcome] at path
  split at path
  next early =>
    obtain ⟨rfl, rfl⟩ := path_pure_iff.mp path
    exact ⟨rfl, .waiting early⟩
  next due =>
    rw [Bool.not_eq_true] at due
    split at path
    next missing =>
      obtain ⟨rfl, rfl⟩ := path_pure_iff.mp path
      exact ⟨rfl, .noBook due missing⟩
    next book known =>
      simp only [withBook] at path
      split at path
      next highest =>
        obtain ⟨rest, rfl, ends⟩ := path_log_iff.mp path
        obtain ⟨rfl, rfl⟩ := path_pure_iff.mp ends
        exact ⟨rfl, .noBoundary due known (Or.inl highest)⟩
      next highest lowest =>
        obtain ⟨rest, rfl, ends⟩ := path_log_iff.mp path
        obtain ⟨rfl, rfl⟩ := path_pure_iff.mp ends
        exact ⟨rfl, .noBoundary due known (Or.inr lowest)⟩
      next buyMax sellMin highest lowest =>
        split at path
        next unsized =>
          obtain ⟨rest, rfl, ends⟩ := path_log_iff.mp path
          obtain ⟨rfl, rfl⟩ := path_pure_iff.mp ends
          exact ⟨rfl, .noSize due known highest lowest unsized⟩
        next target sized =>
          rw [sides_eq] at path
          obtain ⟨first, buy, rest, rfl, buys, goesOn⟩ := path_bind_iff.mp path
          obtain ⟨second, sell, last, rfl, sells, ends⟩ := path_bind_iff.mp goesOn
          obtain ⟨rfl, rfl⟩ := path_pure_iff.mp ends
          obtain ⟨unasked, bought⟩ := buyTurn_course buys
          obtain ⟨silent, sold⟩ := sellTurn_course sells
          refine ⟨by simp [unasked, silent], ?_⟩
          simpa using Course.sides due known highest lowest sized bought sold

end Proposal

end QuoteKeeper
