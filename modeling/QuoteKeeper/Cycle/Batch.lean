import QuoteKeeper.Cycle.Withdrawal

/-!
# Carrying out

Cancels are made one by one, whatever becomes of each. A batch of new orders is checked against the
budget as a whole, and placed order by order only if the check returns all of it.
-/

namespace QuoteKeeper

/-- What became of a batch. -/
structure BatchResult where
  placed : List OrderId := []
  failed : Nat := 0
  budgetRejected : Nat := 0
  externalFailures : Nat := 0
deriving DecidableEq

namespace Batch

/-- Make a cancel call; the answer tells whether it failed. -/
def cancelCall (p : Pair) (id : OrderId) : Dialogue (Except Failure Unit) := do
  match ← Dialogue.call (.cancel p id) with
  | .ok () => return .ok ()
  | .error e =>
    let failure := Failure.venueCall "cancel" e
    Dialogue.log (.warn ("❌ " ++ failure.message))
    return .error failure

def withdrawLine (w : Withdrawal) : LogLine :=
  let o := w.order
  (LogLine.info
      (s!"🗑️ Cancel {o.side} {o.pair} {o.id}@{o.price} (" ++ w.reason.text ++ ")")).withFields
    [("pair", o.pair.text), ("side", o.side.text), ("order_id", o.id),
      ("order_price", o.price.text), ("reference", w.reference.text),
      ("threshold", w.threshold.text), ("reason", w.reason.text)]

/-- Cancel an order that a rule has picked. -/
def withdraw (w : Withdrawal) : Dialogue (Except Failure Unit) := do
  Dialogue.log (withdrawLine w)
  cancelCall w.order.pair w.order.id

def cancelLine (o : RestingOrder) (reason : CancelReason) : LogLine :=
  (LogLine.info (s!"🗑️ Cancel {o.side} {o.pair} {o.id} (" ++ reason.text ++ ")")).withFields
    [("pair", o.pair.text), ("side", o.side.text), ("order_id", o.id),
      ("order_price", o.price.text), ("reason", reason.text)]

/-- Cancel an order outside the rules. -/
def cancel (o : RestingOrder) (reason : CancelReason) : Dialogue (Except Failure Unit) := do
  Dialogue.log (cancelLine o reason)
  cancelCall o.pair o.id

/-- Cancel one after the other; the number of calls that failed. -/
def withdrawAll : List Withdrawal → Dialogue Nat
  | [] => return 0
  | w :: rest => do
    let r ← withdraw w
    let failed ← withdrawAll rest
    return match r with
      | .ok () => failed
      | .error _ => failed + 1

/-- Place one order. -/
def placeOne (c : Candidate) : Dialogue (Option OrderId) := do
  match ← Dialogue.call (.place c) with
  | .ok id =>
    Dialogue.log (.info s!"✅ Order placed: {c.side} {c.amount} {c.pair}@{c.price} id={id}")
    return some id
  | .error e =>
    Dialogue.log
      (.warn (s!"❌ Failed to place {c.side} {c.pair}: " ++ (Failure.venueCall "place" e).message))
    return none

/-- Place one after the other, whatever becomes of each. -/
def placeAll : List Candidate → Dialogue BatchResult
  | [] => return {}
  | c :: rest => do
    let r ← placeOne c
    let result ← placeAll rest
    return match r with
      | some id => { result with placed := id :: result.placed }
      | none => { result with failed := result.failed + 1 }

/-- Check a batch against the budget, all or none, and place it. -/
def place (batch : List Candidate) : Dialogue BatchResult := do
  if batch.isEmpty then
    return {}
  match ← Dialogue.call (.budgetAdjust batch true) with
  | .error e =>
    Dialogue.log (.warn ("❌ " ++ (Failure.venueCall "budget_adjust" e).message))
    return { externalFailures := 1 }
  | .ok adjusted =>
    if adjusted.isEmpty then
      Dialogue.log (.info s!"💸 Budget check rejected {batch.length} candidate(s)")
      return { budgetRejected := batch.length }
    else if adjusted.length ≠ batch.length then
      Dialogue.log
        (.warn (s!"⚠️ Budget check returned {adjusted.length} of {batch.length} candidates "
          ++ "under all-or-none; dropping batch"))
      return { budgetRejected := batch.length }
    else
      placeAll adjusted

end Batch

end QuoteKeeper
