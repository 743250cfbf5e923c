import QuoteKeeper.Market.Order

/-!
# What goes wrong

Each cause has one wording. A failed call to the outside carries the causes that led to it, the
outermost first.
-/

namespace QuoteKeeper

/-- A failed call: what was tried, down to the root cause. -/
structure CallError where
  root : String
  contexts : List String := []
deriving DecidableEq

namespace CallError

/-- All causes on one line. -/
def text (e : CallError) : String := ": ".intercalate (e.contexts ++ [e.root])

/-- The outermost cause. -/
def outermost (e : CallError) : String := e.contexts.headD e.root

/-- The same failure seen from one level further out. -/
def within (e : CallError) (what : String) : CallError :=
  { e with contexts := what :: e.contexts }

end CallError

inductive Failure where
  | staleReference (pair : Pair)
  | unusablePrice (what : String) (pair : Pair) (value : Option Decimal)
  | insufficientFunds (pair : Pair) (side : Side) (currency : String) (amount allowed : Decimal)
  | feedFetch (detail : String)
  | feedPayload (detail : String)
  | venueCall (action : String) (error : CallError)
  | settings (detail : String)
  | badPair (text : String)
deriving DecidableEq

namespace Failure

def message : Failure → String
  | staleReference pair => s!"reference price stale or missing for {pair}"
  | unusablePrice what pair value =>
    let shown := match value with
      | some v => v.text
      | none => "overflow"
    s!"computed {what} for {pair} is not a finite positive price (value: {shown})"
  | insufficientFunds pair side currency amount allowed =>
    s!"insufficient {currency} for {side} on {pair}: amount {amount}, allowed {allowed}"
  | feedFetch detail => s!"reference feed fetch failed: {detail}"
  | feedPayload detail => s!"reference feed payload malformed: {detail}"
  | venueCall action error => action ++ " failed: " ++ error.text
  | settings detail => s!"invalid configuration: {detail}"
  | badPair text => s!"invalid trading pair '{text}'"

end Failure

/-- Read a pair; the error holds the text without the blanks at its ends. -/
def Pair.read (s : String) : Except Failure Pair :=
  match ofText? s with
  | some p => .ok p
  | none => .error (.badPair (Text.trim s))

end QuoteKeeper
