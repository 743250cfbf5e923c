import QuoteKeeper.Feed.Payload
import QuoteKeeper.Text.Octets
import QuoteKeeper.Web.Status

/-!
# Replies of the feed

Only a successful reply that came whole is read.
-/

namespace QuoteKeeper

namespace Feed

/-- Why a request to the feed has no body to read. -/
inductive FetchFault where
  | noReply (address : String)
  | refused (status : Web.Status)
  | cutShort

def FetchFault.message : FetchFault → String
  | noReply address => s!"request failed: error sending request for url ({address})"
  | refused status => s!"feed returned status: {status.text}"
  | cutShort => "reading body: error decoding response body"

/-- The body of a reply, or of none if the connection was closed before one. -/
def bodyOf (address : String) (reply : Option Web.Reply) : Except FetchFault String :=
  match reply.bind Web.Reply.arrived? with
  | none => .error (.noReply address)
  | some r =>
    if !r.status.isSuccess then .error (.refused r.status)
    else if 0 < r.missing then .error .cutShort
    else .ok (Text.ofOctets r.body)

/-- The book that a reply holds. -/
def readReply (address : String) (reply : Option Web.Reply) :
    Except Failure (ReferenceBook × List LogLine) :=
  match bodyOf address reply with
  | .ok body => readPayload body
  | .error fault => .error (.feedFetch fault.message)

end Feed

end QuoteKeeper
