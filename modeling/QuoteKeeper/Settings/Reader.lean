import QuoteKeeper.Decimal.Numeral
import QuoteKeeper.Failure
import QuoteKeeper.Settings.Basic

/-!
# Reading settings

Every setting has a variable; one that is not set keeps its default. Lists must be well formed. A
single number that cannot be read counts as not set.
-/

namespace QuoteKeeper

/-- The pairs not in `seen`, each at its first position. -/
def distinctFrom (seen : List Pair) : List Pair → List Pair
  | [] => []
  | p :: rest =>
    if seen.contains p then distinctFrom seen rest else p :: distinctFrom (p :: seen) rest

/-- A comma-separated list of pairs, without repetitions. -/
def readPairs (s : String) : Except Failure (List Pair) := do
  return distinctFrom [] (← (Text.items s).mapM Pair.read)

/-- Why an item of a list of amounts cannot be read. -/
inductive AmountFault where
  | noColon (item : String)
  | badAmount (item : String) (error : Decimal.NumeralError)

def AmountFault.message : AmountFault → String
  | noColon item => s!"expected CURRENCY:amount, got '{item}'"
  | badAmount item error => s!"bad amount in '{item}': " ++ error.message

/-- One currency with its amount, separated by the first colon. -/
def readAmount (item : String) : Except AmountFault (String × Decimal) :=
  match Text.split ':' item with
  | [] | [_] => .error (.noColon item)
  | currency :: amount =>
    match Decimal.ofText (Text.trim (":".intercalate amount)) with
    | .ok d => .ok (Text.upper (Text.trim currency), d)
    | .error e => .error (.badAmount item e)

/-- A comma-separated list of currencies with amounts; the last amount of a currency counts. -/
def readAmounts (s : String) : Except Failure (Table String Decimal) :=
  match (Text.items s).mapM readAmount with
  | .ok amounts => .ok (Table.ofList amounts)
  | .error fault => .error (.settings fault.message)

/-- The decimal in a variable, or the default. -/
def decimalOr (fallback : Decimal) (value : Option String) : Decimal :=
  match value with
  | none => fallback
  | some v =>
    match Decimal.ofText (Text.trim v) with
    | .ok d => d
    | .error _ => fallback

/-- A span in units of `unit`, or the default. -/
def spanOr (fallback : Span) (unit : Nat → Span) (value : Option String) : Span :=
  ((value.bind Text.word?).map unit).getD fallback

/-- A text without blanks at its ends, or the default if nothing is left. -/
def textOr (fallback : String) (value : Option String) : String :=
  match value with
  | none => fallback
  | some v => if Text.trim v = "" then fallback else Text.trim v

/-- Off if the text is 0 or false, in whatever case; blanks count. No letter outside ASCII has a
lower case that occurs in the word. -/
def switchOr (fallback : Bool) (value : Option String) : Bool :=
  match value with
  | none => fallback
  | some v => decide (v ≠ "0" ∧ v.map Char.toLower ≠ "false")

namespace SideRatios

/-- The ratios of one side, whose variables begin with `side`. -/
def ofLookup (side : String) (fallback : SideRatios) (lookup : String → Option String) :
    SideRatios where
  place := decimalOr fallback.place (lookup (side ++ "_PLACE_RATIO"))
  placeDistance := decimalOr fallback.placeDistance (lookup (side ++ "_PLACE_MAX_DISTANCE"))
  unprofitable := decimalOr fallback.unprofitable (lookup (side ++ "_CANCEL_UNPROFITABLE_RATIO"))
  outbid := decimalOr fallback.outbid (lookup (side ++ "_CANCEL_OUTBID_RATIO"))

end SideRatios

namespace Settings

/-- A list in a variable, or the default if the variable is not set. -/
def listOr {α : Type} (fallback : α) (read : String → Except Failure α) (value : Option String) :
    Except Failure α :=
  match value with
  | none => .ok fallback
  | some v => read v

/-- Read all variables; of several malformed lists, the pairs are reported first, then the
exclusions, then the sizes. -/
def ofLookup (lookup : String → Option String) : Except Failure Settings := do
  let pairs ← listOr default.pairs readPairs (lookup "MM_TRADING_PAIRS")
  let buyExcluded ← listOr default.buyExcluded readPairs (lookup "MM_BUY_EXCLUDED_PAIRS")
  let sizes ← listOr default.sizes readAmounts (lookup "MM_QUOTE_SIZES")
  return {
    venue := textOr default.venue (lookup "MM_EXCHANGE")
    pairs
    buy := SideRatios.ofLookup "MM_BUY" default.buy lookup
    sell := SideRatios.ofLookup "MM_SELL" default.sell lookup
    reorder :=
      spanOr default.reorder Span.ofSeconds
        ((lookup "MM_MIN_REORDER_INTERVAL_SECS").map Text.trim)
    sizes
    multiplier := decimalOr default.multiplier (lookup "MM_SIZE_MULTIPLIER")
    buyExcluded
    tick := spanOr default.tick Span.ofMillis ((lookup "MM_TICK_INTERVAL_MS").map Text.trim)
    cancelAllOnShutdown :=
      switchOr default.cancelAllOnShutdown (lookup "MM_CANCEL_ALL_ON_SHUTDOWN") }

end Settings

end QuoteKeeper
