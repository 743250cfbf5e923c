import QuoteKeeper.Feed.Backoff
import QuoteKeeper.Settings.Reader
import QuoteKeeper.Web.Url

/-!
# Settings of the reference feed

Where the feed is asked, how often, and how long at most after failures.
-/

namespace QuoteKeeper

structure FeedSettings where
  /-- Address to which the pairs are appended. -/
  base : String := "http://api-test-33.nowcaster.io/bid-ask/?markets="
  interval : Span := Span.ofMillis 500
  longestWait : Span := Span.ofMillis 30000

namespace FeedSettings

def ofLookup (lookup : String → Option String) : FeedSettings :=
  let fallback : FeedSettings := {}
  { base := textOr fallback.base (lookup "MM_FEED_URL")
    interval := spanOr fallback.interval Span.ofMillis (lookup "MM_FEED_INTERVAL_MS")
    longestWait := spanOr fallback.longestWait Span.ofMillis (lookup "MM_FEED_MAX_BACKOFF_MS") }

/-- Failures wait at least as long as successes. -/
def backoff (s : FeedSettings) : Feed.Backoff :=
  { interval := s.interval, base := s.interval, longest := Nat.max s.longestWait s.interval }

/-- The address that is asked for the prices of some pairs. -/
def url (s : FeedSettings) (pairs : List Pair) : Except Failure Web.Url :=
  match Web.Url.ofText (s.base ++ "_".intercalate (pairs.map Pair.text)) with
  | .ok url => .ok url
  | .error fault => .error (.settings s!"invalid feed url '{s.base}': {fault.message}")

end FeedSettings

end QuoteKeeper
