import QuoteKeeper.Dialogue
import QuoteKeeper.Feed.Payload

/-!
# The paper venue

Balances, resting orders and books, all in memory. Placing an order moves no money: what resting
orders need is counted as locked and taken off the balance when asked what is available. Money moves
when an order is filled. A number that overflows breaks the venue down over what it is doing; it is
used all the same afterwards, as it was left. Calls can be made to fail on purpose.
-/

namespace QuoteKeeper

structure Paper where
  balances : Table String Decimal := {}
  /-- In the order in which they were placed. -/
  orders : List RestingOrder := []
  books : Table Pair BidAsk := {}
  failing : List CallKind := []
  /-- In the order of the calls. -/
  canceled : List OrderId := []
  /-- How many ids have been given out. -/
  issued : Nat := 0
deriving DecidableEq

namespace Paper

/-- The id that is given out after `n` others. -/
def idAfter (n : Nat) : OrderId := "#" ++ toString (n + 1)

def balance (v : Paper) (currency : String) : Decimal :=
  (v.balances.get? currency).getD Decimal.zero

def setBalance (v : Paper) (currency : String) (amount : Decimal) : Paper :=
  { v with balances := v.balances.set currency amount }

def setBook (v : Paper) (p : Pair) (book : BidAsk) : Paper :=
  { v with books := v.books.set p book }

def setFailing (v : Paper) (kind : CallKind) (on : Bool) : Paper :=
  let others := v.failing.filter (· ≠ kind)
  { v with failing := if on then kind :: others else others }

/-- The valid reference prices become the books of their pairs. -/
def adopt (v : Paper) (reference : ReferenceBook) : Paper :=
  reference.entries.foldl (fun v (p, q) => if q.isValid then v.setBook p q else v) v

/-- What a resting order locks of a currency: a buy its value in quote currency, a sell its amount
in base currency. -/
def lockedBy (currency : String) (o : RestingOrder) : Except Overflow Decimal :=
  match o.side with
  | .buy => if o.pair.quote = currency then o.price.mul o.amount else .ok Decimal.zero
  | .sell => .ok (if o.pair.base = currency then o.amount else Decimal.zero)

/-- What some orders lock of a currency, added to `sum` in their order. -/
def lockedFrom (currency : String) (sum : Decimal) : List RestingOrder → Except Overflow Decimal
  | [] => .ok sum
  | o :: rest => do lockedFrom currency (← sum.add (← lockedBy currency o)) rest

def locked (v : Paper) (currency : String) : Except Overflow Decimal :=
  lockedFrom currency Decimal.zero v.orders

/-- What is left of the balance, and never less than nothing. -/
def available (v : Paper) (currency : String) : Except Overflow Decimal := do
  return ((← (v.balance currency).sub (← v.locked currency)).max Decimal.zero)

/-- What a candidate needs: a currency and an amount of it. -/
def requirement (c : Candidate) : Except CallError (String × Decimal) :=
  match c.side with
  | .buy =>
    match c.notional? with
    | some value => .ok (c.pair.quote, value)
    | none => .error { root := s!"notional overflow for {c.side} {c.pair}" }
  | .sell => .ok (c.pair.base, c.amount)

/-- Let a candidate rest under the next id. -/
def rest (v : Paper) (c : Candidate) : OrderId × Paper :=
  let id := idAfter v.issued
  (id, { v with orders := v.orders ++ [c.rest id], issued := v.issued + 1 })

/-- The answer to a call, the venue afterwards, and what it logs. -/
structure Answered (α : Type) where
  reply : Except CallError α
  venue : Paper
  lines : List LogLine := []

/-- A call that fails and changes nothing. -/
def refused {α : Type} (v : Paper) (root : String) : Answered α :=
  { reply := .error { root }, venue := v }

def topOfBook (v : Paper) (p : Pair) (side : Side) : Answered Decimal :=
  match v.books.get? p with
  | none => v.refused s!"no order book for {p}"
  | some book =>
    { reply := .ok (match side with | .buy => book.bid | .sell => book.ask), venue := v }

/-- An order is canceled by its id together with its pair. -/
def cancel (v : Paper) (p : Pair) (id : OrderId) : Answered Unit :=
  match v.orders.findIdx? fun o => decide (o.id = id) && decide (o.pair = p) with
  | none => v.refused s!"unknown order {id} on {p}"
  | some i =>
    { reply := .ok ()
      venue := { v with orders := v.orders.eraseIdx i, canceled := v.canceled ++ [id] }
      lines := [.debug s!"📝 [PAPER] canceled {id} on {p}"] }

/-- Price and amount must be positive and the account must afford the order. -/
def place (v : Paper) (c : Candidate) : Except Overflow (Answered OrderId) :=
  if c.price ≤ Decimal.zero ∨ c.amount ≤ Decimal.zero then
    return v.refused s!"rejected {c.side} {c.pair}: price={c.price} amount={c.amount}"
  else
    match requirement c with
    | .error e => return { reply := .error e, venue := v }
    | .ok (currency, needed) => do
      let available ← v.available currency
      if available < needed then
        return v.refused s!"insufficient {currency}: need {needed}, available {available}"
      else
        let (id, v) := v.rest c
        return {
          reply := .ok id
          venue := v
          lines := [.info s!"📝 [PAPER] {c.side} {c.amount} {c.pair}@{c.price} id={id}"] }

/-- The candidates up to the first one that the account cannot pay for, given what is spent of each
currency already. -/
def affordable (v : Paper) (spent : Table String Decimal) :
    List Candidate → Except Overflow (Except CallError (List Candidate))
  | [] => return .ok []
  | c :: rest =>
    match requirement c with
    | .error e => return .error (e.within "budget adjust")
    | .ok (currency, needed) => do
      let total ← ((spent.get? currency).getD Decimal.zero).add needed
      if (← v.available currency) < total then
        return .ok []
      else
        return (c :: ·) <$> (← affordable v (spent.set currency total) rest)

/-- With `allOrNone` a batch that cannot be paid for as a whole leaves nothing. -/
def adjust (v : Paper) (batch : List Candidate) (allOrNone : Bool) :
    Except Overflow (Except CallError (List Candidate)) := do
  return (← v.affordable {} batch).map fun accepted =>
    if allOrNone && accepted.length != batch.length then [] else accepted

/-- The name of a call in the text of an injected failure. -/
def kindText : CallKind → String
  | .topOfBook => "TopOfBook"
  | .openOrders => "OpenOrders"
  | .balance => "Balance"
  | .cancel => "Cancel"
  | .place => "Place"
  | .budgetAdjust => "BudgetAdjust"

/-- Answer a call that is not made to fail. -/
def serve (v : Paper) : (c : Call) → Except Overflow (Answered c.Answer)
  | .topOfBook p side => .ok (v.topOfBook p side)
  | .openOrders => .ok { reply := .ok v.orders, venue := v }
  | .balance currency => do
    return { reply := .ok (← v.available currency), venue := v }
  | .cancel p id => .ok (v.cancel p id)
  | .place c => v.place c
  | .budgetAdjust batch allOrNone => do
    return { reply := ← v.adjust batch allOrNone, venue := v }

/-- Answer a call. -/
def answer (v : Paper) (c : Call) : Except Overflow (Answered c.Answer) :=
  if v.failing.contains c.kind then
    .ok (v.refused ("paper exchange: injected " ++ kindText c.kind ++ " failure"))
  else
    v.serve c

/-- The book has reached the order: the ask has come down to a buy, the bid up to a sell. -/
def crosses (v : Paper) (o : RestingOrder) : Bool :=
  match v.books.get? o.pair with
  | none => false
  | some book =>
    match o.side with
    | .buy => decide (Decimal.zero < book.ask) && decide (book.ask ≤ o.price)
    | .sell => decide (Decimal.zero < book.bid) && decide (o.price ≤ book.bid)

def credit (v : Paper) (currency : String) (change : Decimal) : Except Overflow Paper := do
  return v.setBalance currency (← (v.balance currency).add change)

/-- Move the money of a filled order. -/
def settle (v : Paper) (o : RestingOrder) : Except Overflow Paper := do
  let value ← o.price.mul o.amount
  match o.side with
  | .buy => (← v.credit o.pair.quote value.neg).credit o.pair.base o.amount
  | .sell => (← v.credit o.pair.base o.amount.neg).credit o.pair.quote value

/-- Settle orders one after the other. -/
def settleAll (v : Paper) : List RestingOrder → Except Overflow Paper
  | [] => .ok v
  | o :: rest => do settleAll (← v.settle o) rest

/-- Fill every order that the books have reached. -/
def fillCrossed (v : Paper) : Except Overflow (List Fill × Paper) := do
  let crossed := v.orders.filter v.crosses
  let resting := v.orders.filter (!v.crosses ·)
  let settled ← { v with orders := resting }.settleAll crossed
  return (crossed.map (·.fill), settled)

/-- What is left of a venue that breaks down over settling an order: the first of the two payments
may have been made. -/
def settleHalf (v : Paper) (o : RestingOrder) : Paper :=
  match o.price.mul o.amount with
  | .error _ => v
  | .ok value =>
    match o.side with
    | .buy => (v.credit o.pair.quote value.neg).toOption.getD v
    | .sell => (v.credit o.pair.base o.amount.neg).toOption.getD v

/-- Settle orders one after the other until the venue breaks down over one: those that are settled
by then, and what is left of the venue. -/
def settleUntil (v : Paper) : List RestingOrder → List RestingOrder × Paper
  | [] => ([], v)
  | o :: rest =>
    match v.settle o with
    | .error _ => ([], v.settleHalf o)
    | .ok w =>
      let (settled, left) := w.settleUntil rest
      (o :: settled, left)

/-- Fill what the books have reached until the venue breaks down: the fills that are made by then,
and the venue that goes on. None of the orders that the books have reached rests there any more. -/
def fillUntil (v : Paper) : List Fill × Paper :=
  let (settled, left) := { v with orders := v.orders.filter (!v.crosses ·) }.settleUntil
    (v.orders.filter v.crosses)
  (settled.map (·.fill), left)

end Paper

end QuoteKeeper
