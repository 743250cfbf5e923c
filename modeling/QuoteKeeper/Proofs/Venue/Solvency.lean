import Mathlib.Algebra.BigOperators.Group.List.Basic
import Mathlib.Algebra.Order.BigOperators.Group.List
import QuoteKeeper.Proofs.Decimal.Rounding
import QuoteKeeper.Proofs.Rehearsal.Serving
import QuoteKeeper.Proofs.Venue.Answering

/-!
# What rests is paid for

A venue that starts with nothing resting and no debts never locks more of a currency than it has,
whatever calls are made, orders filled and books set, as long as no sum is rounded or overflows.
Money moves with fills only, so a balance is what it was at first with what the fills have brought
and taken. What a buy locks, settles and pays is one rounded value, which need not be exact. What a
sell is worth is first computed when it is filled; if that overflows the venue breaks down, with the
fills before it made and with nothing locked for the orders after it.
-/

namespace QuoteKeeper

open Decimal

theorem Decimal.mul_eq_ok_iff {a b c : Decimal} : a.mul b = .ok c ↔ mul? a b = some c := by
  rw [Decimal.mul]
  split
  next found => rw [found, Except.ok.injEq, Option.some.injEq]
  next none => rw [none]; exact ⟨fun h => (nomatch h), fun h => (nomatch h)⟩

/-- What an amount is worth at a price, as computed. -/
def worth (price amount : Decimal) : ℚ := ((mul? price amount).map value).getD 0

theorem worth_eq {price amount computed : Decimal} (found : mul? price amount = some computed) :
    worth price amount = computed.value := by
  rw [worth, found]
  rfl

/-- What an order needs of a currency as long as it rests. -/
def RestingOrder.needs (currency : String) (o : RestingOrder) : ℚ :=
  match o.side with
  | .buy => if o.pair.quote = currency then worth o.price o.amount else 0
  | .sell => if o.pair.base = currency then o.amount.value else 0

/-- What a fill brings of a currency, on both sides of its pair; what it takes is negative. -/
def Fill.brings (currency : String) (f : Fill) : ℚ :=
  match f.side with
  | .buy =>
    (if f.pair.quote = currency then -worth f.price f.amount else 0)
      + (if f.pair.base = currency then f.amount.value else 0)
  | .sell =>
    (if f.pair.base = currency then -f.amount.value else 0)
      + (if f.pair.quote = currency then worth f.price f.amount else 0)

/-- What the order is worth does not overflow, if it is a buy. -/
def RestingOrder.Computed (o : RestingOrder) : Prop :=
  o.side = .buy → ∃ value, mul? o.price o.amount = some value

/-- An order as it can come to rest: price and amount are above zero, and what a buy is worth does
not overflow. -/
structure RestingOrder.Sound (o : RestingOrder) : Prop where
  price_pos : 0 < o.price.value
  amount_pos : 0 < o.amount.value
  computed : o.side = .buy → ∃ value, mul? o.price o.amount = some value

theorem worth_nonneg {price amount : Decimal} (pricePos : 0 < price.value)
    (amountPos : 0 < amount.value) : 0 ≤ worth price amount := by
  rw [worth]
  cases found : mul? price amount with
  | none => exact le_refl _
  | some computed =>
    rw [Option.map_some, Option.getD_some, ← value_zero]
    refine (mul?_rounds found).atLeast zero ?_
    rw [value_zero]
    exact (mul_pos pricePos amountPos).le

theorem RestingOrder.Sound.needs_nonneg {o : RestingOrder} (sound : o.Sound) (currency : String) :
    0 ≤ o.needs currency := by
  have value := worth_nonneg sound.price_pos sound.amount_pos
  have amount := sound.amount_pos.le
  rw [needs]
  split
  · split
    · exact value
    · exact le_refl _
  · split
    · exact amount
    · exact le_refl _

/-- A fill takes no more than its order has needed. -/
theorem RestingOrder.Sound.fill_covered {o : RestingOrder} (sound : o.Sound) (currency : String) :
    0 ≤ o.needs currency + o.fill.brings currency := by
  have value := worth_nonneg sound.price_pos sound.amount_pos
  have amount := sound.amount_pos.le
  rw [needs, Fill.brings]
  cases side : o.side with
  | buy =>
    simp only [fill, side]
    split
    · split
      · linarith
      · linarith
    · split
      · linarith
      · linarith
  | sell =>
    simp only [fill, side]
    split
    · split
      · linarith
      · linarith
    · split
      · linarith
      · linarith

namespace Paper

/-! ### Sums that are exact -/

/-- The sum of what some orders lock of a currency is exact at every step. -/
def ExactLocks (currency : String) (sum : Decimal) : List RestingOrder → Prop
  | [] => True
  | o :: rest =>
    ∀ needed ∈ (lockedBy currency o).toOption,
      Exact (sum.add? needed) (sum.value + needed.value) ∧
        ∀ total ∈ sum.add? needed, ExactLocks currency total rest

instance decidableExactLocks (currency : String) :
    (sum : Decimal) → (orders : List RestingOrder) → Decidable (ExactLocks currency sum orders)
  | _, [] => isTrue trivial
  | sum, o :: rest =>
    have : ∀ total, Decidable (ExactLocks currency total rest) :=
      fun total => decidableExactLocks currency total rest
    inferInstanceAs (Decidable (∀ needed ∈ (lockedBy currency o).toOption,
      Exact (sum.add? needed) (sum.value + needed.value) ∧
        ∀ total ∈ sum.add? needed, ExactLocks currency total rest))

/-- What is available of a currency is exact, up to the cut at zero. -/
structure ExactAvailable (v : Paper) (currency : String) : Prop where
  locks : ExactLocks currency zero v.orders
  free : ∀ locked ∈ (v.locked currency).toOption,
    Exact ((v.balance currency).sub? locked) ((v.balance currency).value - locked.value)

instance (v : Paper) (currency : String) : Decidable (v.ExactAvailable currency) :=
  decidable_of_iff (_ ∧ _)
    ⟨fun ⟨locks, free⟩ => ⟨locks, free⟩, fun ⟨locks, free⟩ => ⟨locks, free⟩⟩

/-- A change of a balance is exact. -/
def ExactCredit (v : Paper) (currency : String) (change : Decimal) : Prop :=
  Exact ((v.balance currency).add? change) ((v.balance currency).value + change.value)

instance (v : Paper) (currency : String) (change : Decimal) :
    Decidable (v.ExactCredit currency change) :=
  inferInstanceAs (Decidable (Exact _ _))

/-- What is taken when an order is filled, and what is given for it: the currencies and amounts. -/
def changes (o : RestingOrder) (value : Decimal) : (String × Decimal) × (String × Decimal) :=
  match o.side with
  | .buy => ((o.pair.quote, value.neg), (o.pair.base, o.amount))
  | .sell => ((o.pair.base, o.amount.neg), (o.pair.quote, value))

/-- Filling an order changes balances exactly. -/
def ExactSettle (v : Paper) (o : RestingOrder) : Prop :=
  ∀ value ∈ mul? o.price o.amount,
    v.ExactCredit (changes o value).1.1 (changes o value).1.2 ∧
      ∀ u ∈ (v.credit (changes o value).1.1 (changes o value).1.2).toOption,
        u.ExactCredit (changes o value).2.1 (changes o value).2.2

instance (v : Paper) (o : RestingOrder) : Decidable (v.ExactSettle o) :=
  inferInstanceAs (Decidable (∀ value ∈ mul? o.price o.amount, _ ∧ ∀ u ∈ _, _))

/-- Filling orders one after the other changes balances exactly. -/
def ExactSettles (v : Paper) : List RestingOrder → Prop
  | [] => True
  | o :: rest => v.ExactSettle o ∧ ∀ u ∈ (v.settle o).toOption, u.ExactSettles rest

instance decidableExactSettles :
    (v : Paper) → (orders : List RestingOrder) → Decidable (v.ExactSettles orders)
  | _, [] => isTrue trivial
  | v, o :: rest =>
    have : ∀ u : Paper, Decidable (u.ExactSettles rest) := fun u => decidableExactSettles u rest
    inferInstanceAs (Decidable (v.ExactSettle o ∧ ∀ u ∈ (v.settle o).toOption, u.ExactSettles rest))

/-- Filling what the books have reached changes balances exactly. -/
def ExactFills (v : Paper) : Prop :=
  { v with orders := v.orders.filter (!v.crosses ·) }.ExactSettles (v.orders.filter v.crosses)

instance (v : Paper) : Decidable v.ExactFills := inferInstanceAs (Decidable (ExactSettles _ _))

/-- The venue in use without money or orders from outside, with all fills that it has made so far.
No sum that a placed order or a fill depends on is rounded or overflows. -/
inductive Trades (initial : Paper) : List Fill → Paper → Prop
  | start : Trades initial [] initial
  | placed {v : Paper} {fills : List Fill} {c : Candidate} {answered : Answered OrderId}
      (before : Trades initial fills v) (answer : v.answer (.place c) = .ok answered)
      (exactly : ∀ id currency needed, answered.reply = .ok id →
        requirement c = .ok (currency, needed) → v.ExactAvailable currency) :
      Trades initial fills answered.venue
  | called {v : Paper} {fills : List Fill} {c : Call} {answered : Answered c.Answer}
      (before : Trades initial fills v) (other : c.kind ≠ .place)
      (answer : v.answer c = .ok answered) : Trades initial fills answered.venue
  | filled {v w : Paper} {fills new : List Fill} (before : Trades initial fills v)
      (done : v.fillCrossed = .ok (new, w)) (exactly : v.ExactFills) :
      Trades initial (fills ++ new) w
  /-- The venue breaks down over what an order is worth. What it has filled by then is filled, even
  if it does not come to answer with it. -/
  | cutShort {v : Paper} {fills : List Fill} {e : Overflow} (before : Trades initial fills v)
      (breaks : v.fillCrossed = .error e) (exactly : v.ExactFills) :
      Trades initial (fills ++ v.fillUntil.1) v.fillUntil.2
  | adopted {v : Paper} {fills : List Fill} (before : Trades initial fills v)
      (reference : ReferenceBook) : Trades initial fills (v.adopt reference)
  | booked {v : Paper} {fills : List Fill} (before : Trades initial fills v) (p : Pair)
      (book : BidAsk) : Trades initial fills (v.setBook p book)
  | faulted {v : Paper} {fills : List Fill} (before : Trades initial fills v) (kind : CallKind)
      (on : Bool) : Trades initial fills (v.setFailing kind on)

/-! ### Balances -/

theorem balance_setBalance (v : Paper) (currency other : String) (amount : Decimal) :
    (v.setBalance currency amount).balance other =
      if currency = other then amount else v.balance other := by
  rw [balance, setBalance, Table.get?_set]
  split
  · rfl
  · rfl

theorem credit_exactly {v : Paper} {currency : String} {change : Decimal}
    (exactly : v.ExactCredit currency change) : ∃ w, v.credit currency change = .ok w := by
  obtain ⟨total, found, -⟩ := exactly.isSome
  rw [credit, Decimal.add, found]
  exact ⟨_, rfl⟩

theorem credit_balance {v w : Paper} {currency : String} {change : Decimal}
    (exactly : v.ExactCredit currency change) (done : v.credit currency change = .ok w)
    (other : String) : (w.balance other).value =
      (v.balance other).value + if currency = other then change.value else 0 := by
  obtain ⟨amount, added, ends⟩ := Overflow.bind_eq_ok_iff.mp done
  obtain rfl := Except.ok.inj ends
  obtain ⟨total, found, number⟩ := exactly.isSome
  rw [Decimal.add, found] at added
  obtain rfl := Except.ok.inj added
  rw [balance_setBalance]
  split
  next same => rw [number, same]
  next => rw [add_zero]

/-- Settling an order is a multiplication and two payments. -/
theorem settle_eq (v : Paper) (o : RestingOrder) : v.settle o = (do
    let value ← o.price.mul o.amount
    (← v.credit (changes o value).1.1 (changes o value).1.2).credit
      (changes o value).2.1 (changes o value).2.2) := by
  rw [settle]
  cases side : o.side with
  | buy => simp only [changes, side]
  | sell => simp only [changes, side]

theorem settle_changes {v w : Paper} {o : RestingOrder} (done : v.settle o = .ok w) :
    ∃ value u, mul? o.price o.amount = some value ∧
      v.credit (changes o value).1.1 (changes o value).1.2 = .ok u ∧
      u.credit (changes o value).2.1 (changes o value).2.2 = .ok w := by
  rw [settle_eq] at done
  obtain ⟨value, multiplied, moves⟩ := Overflow.bind_eq_ok_iff.mp done
  obtain ⟨u, first, second⟩ := Overflow.bind_eq_ok_iff.mp moves
  exact ⟨value, u, mul_eq_ok_iff.mp multiplied, first, second⟩

theorem settle_balance {v w : Paper} {o : RestingOrder} (exactly : v.ExactSettle o)
    (done : v.settle o = .ok w) (currency : String) :
    (w.balance currency).value = (v.balance currency).value + o.fill.brings currency := by
  obtain ⟨value, u, computed, first, second⟩ := settle_changes done
  obtain ⟨taken, given⟩ := exactly value computed
  rw [credit_balance (given u (by rw [first]; rfl)) second, credit_balance taken first, add_assoc,
    Fill.brings]
  cases side : o.side with
  | buy => simp only [changes, RestingOrder.fill, side, worth_eq computed, value_neg]
  | sell => simp only [changes, RestingOrder.fill, side, worth_eq computed, value_neg]

/-- If changes of balances are exact, nothing has been paid for an order whose settling breaks
down. -/
theorem settleHalf_eq {v : Paper} {o : RestingOrder} {e : Overflow} (exactly : v.ExactSettle o)
    (breaks : v.settle o = .error e) : v.settleHalf o = v := by
  rw [settleHalf]
  split
  next => rfl
  next value multiplied =>
    have computed : mul? o.price o.amount = some value := mul_eq_ok_iff.mp multiplied
    obtain ⟨taken, given⟩ := exactly value computed
    obtain ⟨u, first⟩ := credit_exactly taken
    obtain ⟨w, second⟩ := credit_exactly (given u (by rw [first]; rfl))
    rw [settle_eq, multiplied] at breaks
    change (do (← v.credit _ _).credit _ _) = _ at breaks
    rw [first] at breaks
    cases second.symm.trans breaks

theorem settleUntil_balance {orders : List RestingOrder} {v : Paper}
    (exactly : v.ExactSettles orders) (currency : String) :
    ((v.settleUntil orders).2.balance currency).value = (v.balance currency).value +
      ((v.settleUntil orders).1.map fun o => o.fill.brings currency).sum := by
  induction orders generalizing v with
  | nil => simp [settleUntil]
  | cons o orders ih =>
    obtain ⟨here, later⟩ := exactly
    rw [settleUntil]
    split
    next e breaks => simp [settleHalf_eq here breaks]
    next w first =>
      dsimp only
      rw [ih (later w (by rw [first]; rfl)), settle_balance here first, List.map_cons,
        List.sum_cons, add_assoc]

theorem fillUntil_balance {v : Paper} (exactly : v.ExactFills) (currency : String) :
    (v.fillUntil.2.balance currency).value =
      (v.balance currency).value + (v.fillUntil.1.map (·.brings currency)).sum := by
  have balance := settleUntil_balance exactly currency
  rw [fillUntil, List.map_map]
  exact balance

theorem fillCrossed_fills {v w : Paper} {fills : List Fill}
    (done : v.fillCrossed = .ok (fills, w)) :
    fills = (v.orders.filter v.crosses).map (·.fill) := by
  obtain ⟨settled, -, ends⟩ := Overflow.bind_eq_ok_iff.mp done
  exact (Prod.mk.inj (Except.ok.inj ends)).1.symm

theorem adopt_balances (v : Paper) (reference : ReferenceBook) :
    (v.adopt reference).balances = v.balances := by
  rw [adopt_books]

/-! ### What is locked -/

/-- What all resting orders need of a currency. -/
def needs (v : Paper) (currency : String) : ℚ := (v.orders.map (·.needs currency)).sum

theorem lockedBy_value {o : RestingOrder} (computed : o.Computed) (currency : String) :
    ∃ needed, lockedBy currency o = .ok needed ∧ needed.value = o.needs currency := by
  rw [lockedBy, RestingOrder.needs]
  cases side : o.side with
  | buy =>
    obtain ⟨value, computed⟩ := computed side
    by_cases here : o.pair.quote = currency
    · simp only [here, if_true]
      exact ⟨value, mul_eq_ok_iff.mpr computed, (worth_eq computed).symm⟩
    · simp only [here, if_false]
      exact ⟨zero, rfl, value_zero⟩
  | sell =>
    by_cases here : o.pair.base = currency
    · simp only [here, if_true]
      exact ⟨o.amount, rfl, rfl⟩
    · simp only [here, if_false]
      exact ⟨zero, rfl, value_zero⟩

/-- What orders lock is what they need, if the sum is exact. -/
theorem lockedFrom_value {orders : List RestingOrder} (computed : ∀ o ∈ orders, o.Computed)
    {currency : String} {sum : Decimal} (exactly : ExactLocks currency sum orders) :
    ∃ locked, lockedFrom currency sum orders = .ok locked ∧
      locked.value = sum.value + (orders.map (·.needs currency)).sum := by
  induction orders generalizing sum with
  | nil => exact ⟨sum, rfl, by simp⟩
  | cons o orders ih =>
    obtain ⟨here, later⟩ := List.forall_mem_cons.mp computed
    obtain ⟨needed, locks, amount⟩ := lockedBy_value here currency
    obtain ⟨added, others⟩ := exactly needed (by rw [locks]; rfl)
    obtain ⟨total, found, number⟩ := added.isSome
    obtain ⟨locked, rest, all⟩ := ih later (others total found)
    refine ⟨locked, ?_, ?_⟩
    · rw [lockedFrom, locks]
      change (do lockedFrom currency (← sum.add needed) orders) = _
      rw [Decimal.add, found]
      exact rest
    · rw [all, number, amount, List.map_cons, List.sum_cons, add_assoc]

theorem locked_value {v : Paper} (computed : ∀ o ∈ v.orders, o.Computed) {currency : String}
    (exactly : ExactLocks currency zero v.orders) :
    ∃ locked, v.locked currency = .ok locked ∧ locked.value = v.needs currency := by
  obtain ⟨locked, found, number⟩ := lockedFrom_value computed exactly
  exact ⟨locked, found, by rw [number, value_zero, zero_add, needs]⟩

/-- What is available is the rest of the balance, and nothing if more is locked. -/
theorem available_max {v : Paper} {currency : String} {locked : Decimal}
    (found : v.locked currency = .ok locked) (exactly : v.ExactAvailable currency) :
    ∃ free, v.available currency = .ok free ∧
      free.value = max ((v.balance currency).value - locked.value) 0 := by
  obtain ⟨left, taken, difference⟩ := (exactly.free locked (by rw [found]; rfl)).isSome
  refine ⟨left.max zero, ?_, by rw [max_value, difference, value_zero]⟩
  rw [available, found]
  change (do return (← (v.balance currency).sub locked).max zero) = _
  rw [Decimal.sub, taken]
  rfl

/-- What is available is the rest of the balance, if nothing that is needed is missing. -/
theorem available_value {v : Paper} (sound : ∀ o ∈ v.orders, o.Sound) {currency : String}
    (covered : v.needs currency ≤ (v.balance currency).value)
    (exactly : v.ExactAvailable currency) :
    ∃ free, v.available currency = .ok free ∧
      free.value = (v.balance currency).value - v.needs currency := by
  obtain ⟨locked, found, number⟩ :=
    locked_value (fun o resting => (sound o resting).computed) exactly.locks
  obtain ⟨free, left, difference⟩ := available_max found exactly
  refine ⟨free, left, ?_⟩
  rw [difference, number]
  exact max_eq_left (sub_nonneg.mpr covered)

/-! ### Placing -/

theorem requirement_value {c : Candidate} {currency : String} {needed : Decimal}
    (required : requirement c = .ok (currency, needed)) (id : OrderId) :
    (c.side = .buy → ∃ value, mul? c.price c.amount = some value) ∧ ∀ other,
      (c.rest id).needs other = if currency = other then needed.value else 0 := by
  rw [requirement] at required
  split at required
  next side =>
    split at required
    next value computed =>
      obtain ⟨rfl, rfl⟩ := Prod.mk.inj (Except.ok.inj required)
      refine ⟨fun _ => ⟨value, computed⟩, fun other => ?_⟩
      simp only [RestingOrder.needs, Candidate.rest, side]
      rw [worth_eq computed]
    next => exact nomatch required
  next side =>
    obtain ⟨rfl, rfl⟩ := Prod.mk.inj (Except.ok.inj required)
    refine ⟨fun buy => (nomatch side.symm.trans buy), fun other => ?_⟩
    simp only [RestingOrder.needs, Candidate.rest, side]

/-! ### The invariant -/

/-- What orders have needed covers what a beginning of them takes when it is filled. -/
theorem settled_covered {orders settled : List RestingOrder} (begins : settled <+: orders)
    (sound : ∀ o ∈ orders, o.Sound) (currency : String) :
    0 ≤ (orders.map (·.needs currency)).sum +
      (settled.map fun o => o.fill.brings currency).sum := by
  obtain ⟨rest, rfl⟩ := begins
  obtain ⟨filled, gone⟩ := List.forall_mem_append.mp sound
  have paid : 0 ≤ (settled.map fun o => o.needs currency + o.fill.brings currency).sum := by
    refine List.sum_nonneg fun x member => ?_
    obtain ⟨o, listed, rfl⟩ := List.mem_map.mp member
    exact (filled o listed).fill_covered currency
  have left : 0 ≤ (rest.map (·.needs currency)).sum := by
    refine List.sum_nonneg fun x member => ?_
    obtain ⟨o, listed, rfl⟩ := List.mem_map.mp member
    exact (gone o listed).needs_nonneg currency
  rw [List.sum_map_add] at paid
  rw [List.map_append, List.sum_append]
  linarith

/-- The orders are as they can come to rest, the balances cover them, and the balances are what they
were with what the fills have brought. -/
structure Solvent (initial : Paper) (fills : List Fill) (v : Paper) : Prop where
  sound : ∀ o ∈ v.orders, o.Sound
  covered : ∀ currency, v.needs currency ≤ (v.balance currency).value
  moved : ∀ currency, (v.balance currency).value =
    (initial.balance currency).value + (fills.map (·.brings currency)).sum

namespace Solvent

variable {initial v w : Paper} {fills : List Fill}

/-- Fewer orders on the same balances. -/
theorem fewer (solvent : Solvent initial fills v) (within : w.orders.Sublist v.orders)
    (same : w.balances = v.balances) : Solvent initial fills w := by
  have balance : ∀ currency, w.balance currency = v.balance currency := by
    intro currency
    rw [Paper.balance, Paper.balance, same]
  refine ⟨fun o member => solvent.sound o (within.subset member), fun currency => ?_,
    fun currency => (balance currency).symm ▸ solvent.moved currency⟩
  rw [balance]
  refine le_trans ((within.map _).sum_le_sum fun x member => ?_) (solvent.covered currency)
  obtain ⟨o, resting, rfl⟩ := List.mem_map.mp member
  exact (solvent.sound o resting).needs_nonneg currency

theorem place (solvent : Solvent initial fills v) {c : Candidate} {answered : Answered OrderId}
    (answer : v.place c = .ok answered)
    (exactly : ∀ id currency needed, answered.reply = .ok id →
      requirement c = .ok (currency, needed) → v.ExactAvailable currency) :
    Solvent initial fills answered.venue := by
  rcases place_venue answer with ⟨same, -⟩ | ⟨id, taken, -⟩
  · rwa [same]
  · obtain ⟨pricePos, amountPos, ⟨currency, needed, free, required, found, enough⟩, venue⟩ :=
      place_taken answer taken
    obtain ⟨computed, needs⟩ := requirement_value required (idAfter v.issued)
    rw [venue]
    refine ⟨fun o member => ?_, fun other => ?_, solvent.moved⟩
    · rcases List.mem_append.mp member with old | new
      · exact solvent.sound o old
      · rw [List.mem_singleton.mp new]
        exact ⟨pricePos, amountPos, computed⟩
    · change ((v.orders ++ [c.rest (idAfter v.issued)]).map (·.needs other)).sum ≤
        (v.balance other).value
      rw [List.map_append, List.sum_append, List.map_singleton, List.sum_singleton, needs other]
      have covered := solvent.covered other
      split
      next here =>
        subst here
        obtain ⟨free', found', left⟩ := available_value solvent.sound covered
          (exactly id currency needed taken required)
        obtain rfl := Except.ok.inj (found.symm.trans found')
        change v.needs currency + needed.value ≤ _
        linarith
      next => rwa [add_zero]

theorem fill (solvent : Solvent initial fills v) (exactly : v.ExactFills) :
    Solvent initial (fills ++ v.fillUntil.1) v.fillUntil.2 := by
  have orders := v.fillUntil_money.orders
  have balance := fillUntil_balance exactly
  refine ⟨fun o member => ?_, fun currency => ?_, fun currency => ?_⟩
  · rw [orders] at member
    exact solvent.sound o (List.mem_filter.mp member).1
  · -- The orders are those that still rest and the crossed ones; of these some are filled, which
    -- were covered as well, and the others are gone and need nothing any more.
    have split : v.needs currency = v.fillUntil.2.needs currency +
        ((v.orders.filter v.crosses).map (·.needs currency)).sum := by
      rw [Paper.needs, Paper.needs, orders, ← List.sum_append, ← List.map_append]
      exact (((List.filter_append_perm v.crosses v.orders).symm.trans
        List.perm_append_comm).map _).sum_eq
    have paid : 0 ≤ ((v.orders.filter v.crosses).map (·.needs currency)).sum +
        (v.fillUntil.1.map (·.brings currency)).sum := by
      rw [fillUntil, List.map_map]
      exact settled_covered (settleUntil_begins _ _)
        (fun o crossed => solvent.sound o (List.mem_filter.mp crossed).1) currency
    have covered := solvent.covered currency
    rw [balance]
    linarith
  · rw [balance, solvent.moved, List.map_append, List.sum_append, add_assoc]

end Solvent

theorem Trades.solvent {initial w : Paper} {fills : List Fill} (trades : Trades initial fills w)
    (fresh : initial.orders = []) (funded : ∀ currency, zero ≤ initial.balance currency) :
    Solvent initial fills w := by
  induction trades with
  | start =>
    refine ⟨fun o member => ?_, fun currency => ?_, fun currency => ?_⟩
    · rw [fresh] at member
      exact nomatch member
    · rw [needs, fresh, List.map_nil, List.sum_nil, ← value_zero]
      exact le_iff_value.mp (funded currency)
    · rw [List.map_nil, List.sum_nil, add_zero]
  | placed before answer exactly ih =>
    rcases answer_cases answer with ⟨same, -⟩ | serve
    · rwa [same]
    · exact ih.place serve exactly
  | called before other answer ih =>
    exact ih.fewer (answer_sublist answer other) (answer_market answer).balances
  | filled before done exactly ih =>
    have filled := ih.fill exactly
    rwa [fillUntil_of_done done] at filled
  | cutShort before breaks exactly ih => exact ih.fill exactly
  | @adopted v fills before reference ih =>
    refine ih.fewer ?_ (adopt_balances v reference)
    rw [adopt_orders]
  | booked before p book ih => exact ih.fewer (List.Sublist.refl _) rfl
  | faulted before kind on ih => exact ih.fewer (List.Sublist.refl _) rfl

/-- As long as a venue trades from nothing resting and no debts, no more of a currency is locked
than there is of it, no balance is below zero, and a balance is what it was at first with what the
fills have brought, those included that the venue has made before it broke down over a later one.
What is available then is the balance without what is locked, and no deficit is hidden in it. -/
theorem trades_solvent {initial w : Paper} {fills : List Fill} (trades : Trades initial fills w)
    (fresh : initial.orders = []) (funded : ∀ currency, zero ≤ initial.balance currency)
    (currency : String) :
    zero ≤ w.balance currency ∧
      (w.balance currency).value =
        (initial.balance currency).value + (fills.map (·.brings currency)).sum ∧
      w.needs currency ≤ (w.balance currency).value ∧
      (ExactLocks currency zero w.orders → ∃ locked, w.locked currency = .ok locked ∧
        locked.value = w.needs currency ∧ locked ≤ w.balance currency) ∧
      (w.ExactAvailable currency → ∃ locked free, w.locked currency = .ok locked ∧
        w.available currency = .ok free ∧
        free.value = (w.balance currency).value - locked.value) := by
  have solvent := trades.solvent fresh funded
  have covered := solvent.covered currency
  have computed : ∀ o ∈ w.orders, o.Computed := fun o resting => (solvent.sound o resting).computed
  refine ⟨?_, solvent.moved currency, covered, fun exactly => ?_, fun exactly => ?_⟩
  · have nonneg : 0 ≤ w.needs currency := by
      refine List.sum_nonneg fun x member => ?_
      obtain ⟨o, resting, rfl⟩ := List.mem_map.mp member
      exact (solvent.sound o resting).needs_nonneg currency
    rw [le_iff_value, value_zero]
    exact nonneg.trans covered
  · obtain ⟨locked, found, number⟩ := locked_value computed exactly
    exact ⟨locked, found, number, le_iff_value.mpr (number ▸ covered)⟩
  · obtain ⟨locked, found, number⟩ := locked_value computed exactly.locks
    obtain ⟨free, left, difference⟩ := available_value solvent.sound covered exactly
    exact ⟨locked, free, found, left, by rw [difference, number]⟩

/-- There are no debts if no entry is below zero. -/
theorem funded_of_entries {v : Paper} (entries : ∀ e ∈ v.balances.entries, zero ≤ e.2)
    (currency : String) : zero ≤ v.balance currency := by
  rw [balance, Table.get?]
  cases found : v.balances.entries.find? (·.1 = currency) with
  | none => exact le_iff_value.mpr (le_refl _)
  | some e => exact entries e (List.mem_of_find?_eq_some found)

/-- Whether the venue breaks down or not, it trades on. -/
theorem Trades.fillUntil {initial v : Paper} {fills : List Fill} (before : Trades initial fills v)
    (exactly : v.ExactFills) : Trades initial (fills ++ v.fillUntil.1) v.fillUntil.2 := by
  cases done : v.fillCrossed with
  | error e => exact before.cutShort done exactly
  | ok result =>
    rw [fillUntil_of_done done]
    exact before.filled done exactly

/-- An order comes to rest, from what the answer is. -/
theorem Trades.rest {initial v w : Paper} {fills : List Fill} (before : Trades initial fills v)
    (c : Candidate) (currency : String)
    (placing : (v.answer (.place c)).toOption.map (·.venue) = some w)
    (required : (requirement c).toOption.map (·.1) = some currency)
    (exactly : v.ExactAvailable currency) : Trades initial fills w := by
  cases placed : v.answer (.place c) with
  | error e =>
    rw [placed] at placing
    exact nomatch placing
  | ok answered =>
    rw [placed] at placing
    rw [← Option.some.inj placing]
    refine before.placed placed fun id other needed reply needs => ?_
    rw [needs] at required
    have same : other = currency := Option.some.inj required
    exact same ▸ exactly

/-- A buy that the small market can pay for. -/
def smallBuy : Candidate :=
  { pair := ⟨"X", "BTC"⟩, side := .buy, price := 0.00095, amount := 10.0 }

/-- The small market once the buy rests. -/
def smallRested : Paper := (Rehearsal.small.venue.rest smallBuy).2

/-- The same once the ask has come down to the buy. -/
def smallReached : Paper := smallRested.setBook smallBuy.pair ⟨0.0009, 0.00094⟩

/-- A sell of some of what the buy brings. -/
def smallSell : Candidate := { smallBuy with side := .sell, price := 0.001, amount := 1.0 }

/-- A sell that is worth more than there are numbers for. -/
def smallDear : Candidate := { smallSell with price := 1e28, amount := 100.0 }

/-- The market with both sells once the buy is filled and the bid has come up to them. -/
def smallOffered : Paper :=
  ((smallReached.fillUntil.2.rest smallSell).2.rest smallDear).2.setBook smallBuy.pair ⟨1e28, 2e28⟩

theorem smallOffered_trades :
    Trades Rehearsal.small.venue smallReached.fillUntil.1 smallOffered := by
  have rested : Trades Rehearsal.small.venue [] smallRested :=
    Trades.start.rest smallBuy "BTC" (by decide +kernel) (by decide +kernel) (by decide +kernel)
  have filled := (rested.booked smallBuy.pair ⟨0.0009, 0.00094⟩).fillUntil (by decide +kernel)
  have one : Trades _ _ (smallReached.fillUntil.2.rest smallSell).2 :=
    filled.rest smallSell "X" (by decide +kernel) (by decide +kernel) (by decide +kernel)
  have both : Trades _ _ ((smallReached.fillUntil.2.rest smallSell).2.rest smallDear).2 :=
    one.rest smallDear "X" (by decide +kernel) (by decide +kernel) (by decide +kernel)
  exact both.booked _ _

/-- A buy that is placed, reached by the book and filled, and two sells of which the venue fills the
first and breaks down over the second. -/
theorem trades_solvent_small : ∃ fills w, Trades Rehearsal.small.venue fills w ∧
    Rehearsal.small.venue.orders = [] ∧
    (∀ currency, zero ≤ Rehearsal.small.venue.balance currency) ∧
    smallOffered.fillCrossed.toOption = none ∧ w = smallOffered.fillUntil.2 ∧
    fills.map (·.id) = ["#1", "#2"] ∧ w.orders = [] ∧
    zero ≤ w.balance "BTC" ∧ (w.balance "BTC").value = 1 - 19 / 2000 + 1 / 1000 := by
  have funded := funded_of_entries (v := Rehearsal.small.venue) (by decide +kernel)
  have breaks : smallOffered.fillCrossed.toOption = none := by decide +kernel
  have trades := smallOffered_trades.fillUntil (by decide +kernel)
  obtain ⟨nonneg, moved, -⟩ := trades_solvent trades rfl funded "BTC"
  have legs : (((smallReached.fillUntil.1 ++ smallOffered.fillUntil.1).map
      (·.brings "BTC")).sum) = - (19 / 2000) + 1 / 1000 := by
    decide +kernel
  refine ⟨_, _, trades, rfl, funded, breaks, rfl, by decide +kernel, by decide +kernel, nonneg, ?_⟩
  rw [moved, legs]
  decide +kernel

end Paper

end QuoteKeeper
