import QuoteKeeper.Decimal.Numeral
import QuoteKeeper.Failure
import QuoteKeeper.Journal
import QuoteKeeper.Json.Printer
import QuoteKeeper.Json.Reader
import QuoteKeeper.Market.BidAsk
import QuoteKeeper.Table

/-!
# Reference payloads

The body of a feed answer is a JSON object with a member per pair, each with a bid and an ask. A
price is a number or a string with a number. Members that are not of this form are left out, with a
log line each; of several members for one pair the one with the greatest key counts.
-/

namespace QuoteKeeper

/-- The last known reference price of each pair. -/
abbrev ReferenceBook := Table Pair BidAsk

namespace Feed

/-- Why a body has no reference book. -/
inductive PayloadFault where
  | notJson (fault : Json.Fault)
  | notObject (kind : String)

def PayloadFault.message : PayloadFault → String
  | notJson fault => "invalid JSON: " ++ fault.message
  | notObject kind => s!"expected object, got {kind}"

/-- A price in a payload. -/
def price? : Json.Value → Option Decimal
  | .number text => (Decimal.ofText text).toOption
  | .string text => (Decimal.ofText (Text.trim text)).toOption
  | _ => none

/-- Both prices of a member. -/
def bidAsk? (entry : Json.Value) : Option BidAsk := do
  let bid ← (entry.get? "bid").bind price?
  let ask ← (entry.get? "ask").bind price?
  return { bid, ask }

/-- A member's pair and prices, or the line that tells why it is left out. -/
def entry (key : String) (value : Json.Value) : Except LogLine (Pair × BidAsk) :=
  match Pair.read key with
  | .error e => .error { level := .debug, message := "dropping feed entry: " ++ e.message }
  | .ok pair =>
    match bidAsk? value with
    | some prices => .ok (pair, prices)
    | none =>
      .error
        { level := .debug
          message := "dropping feed entry with non-numeric bid/ask"
          fields := [("pair", pair.text), ("entry", value.text)] }

/-- The book of some members, and a line per member left out. -/
def bookOf (members : List (String × Json.Value)) : ReferenceBook × List LogLine :=
  members.foldl
    (fun (book, lines) (key, value) =>
      match entry key value with
      | .ok (pair, prices) => (book.set pair prices, lines)
      | .error line => (book, lines ++ [line]))
    ({}, [])

/-- The members of a body. -/
def membersOf (body : String) : Except PayloadFault (List (String × Json.Value)) :=
  match Json.read body with
  | .error fault => .error (.notJson fault)
  | .ok (.object members) => .ok members
  | .ok value => .error (.notObject value.kind)

/-- Read a body. -/
def readPayload (body : String) : Except Failure (ReferenceBook × List LogLine) :=
  match membersOf body with
  | .ok members => .ok (bookOf members)
  | .error fault => .error (.feedPayload fault.message)

end Feed

end QuoteKeeper
