import QuoteKeeper.Cycle.Summary
import QuoteKeeper.Failure
import QuoteKeeper.Journal
import QuoteKeeper.Json.Printer
import QuoteKeeper.Web.Status

/-!
# Notices

What is told to the outside: fills, and summaries of cycles that acted. A notice on the wire ends
with the time at which it was made. It goes into the log, or to a server that has to accept it.
-/

namespace QuoteKeeper

inductive Notice where
  | fill (venue : String) (fill : Fill)
  | cycle (venue : String) (summary : CycleSummary)
deriving DecidableEq

namespace Notice

def members : Notice → List (String × Json.Value)
  | fill venue f =>
    [("event", .string "fill"), ("exchange", .string venue), ("pair", .string f.pair.text),
      ("side", .string f.side.lower), ("amount", .string f.amount.text),
      ("price", .string f.price.text), ("order_id", .string f.id)]
  | cycle venue summary =>
    [("event", .string "cycle_summary"), ("exchange", .string venue), ("summary", summary.json)]

/-- Without the time. -/
def json (n : Notice) : Json.Value := .object n.members

/-- As it is sent at the time `made`. -/
def jsonAt (n : Notice) (made : String) : Json.Value :=
  .object (n.members ++ [("at", .string made)])

/-- As a log line. -/
def line (n : Notice) (made : String) : LogLine := .info ("🔔 " ++ (n.jsonAt made).text)

/-- Whether a server has accepted a notice, by its reply. -/
def delivery (reply : Option Web.Reply) : Except CallError Unit :=
  match reply.bind Web.Reply.arrived? with
  | none => .error { root := "Failed to send webhook notification" }
  | some r =>
    if r.status.isSuccess then .ok ()
    else .error { root := "webhook returned status: " ++ r.status.text }

end Notice

/-- The candidate as it stands in JSON. -/
def Candidate.json (c : Candidate) : Json.Value :=
  .object
    [("pair", .string c.pair.text), ("side", .string c.side.lower), ("order_type", .string "limit"),
      ("is_maker", .bool true), ("price", .string c.price.text), ("amount", .string c.amount.text)]

end QuoteKeeper
