import QuoteKeeper.Failure
import QuoteKeeper.Settings.Basic

/-!
# Checking settings

The first fault found counts: pairs and their sizes in order, the multiplier, the buy ratios, the
sell ratios, the tick.
-/

namespace QuoteKeeper

inductive SettingsFault where
  | noPairs
  | badSize (currency : String) (size : Decimal)
  | noSize (pair : Pair)
  | badMultiplier (value : Decimal)
  | badPlaceRatios (side : Side) (place distance : Decimal)
  | noTick
deriving DecidableEq

def SettingsFault.message : SettingsFault → String
  | noPairs => "no trading pairs configured"
  | badSize currency size => s!"target size for {currency} must be positive, got {size}"
  | noSize pair =>
    "no target size for quote currency " ++ pair.quote ++ " (pair " ++ pair.text ++ ")"
  | badMultiplier value => s!"size multiplier must be positive, got {value}"
  | badPlaceRatios side place distance =>
    s!"{side} place ratios must be below 1 (place={place}, max_distance={distance})"
  | noTick => "tick interval must be positive"

namespace Settings

def sizeFault? (s : Settings) (p : Pair) : Option SettingsFault :=
  match s.size? p.quote with
  | none => some (.noSize p)
  | some size => if Decimal.zero < size then none else some (.badSize p.quote size)

def ratiosFault? (s : Settings) (side : Side) : Option SettingsFault :=
  let r := s.ratios side
  if Decimal.one ≤ r.place ∨ Decimal.one ≤ r.placeDistance then
    some (.badPlaceRatios side r.place r.placeDistance)
  else
    none

/-- The first thing wrong with the settings. -/
def fault? (s : Settings) : Option SettingsFault :=
  if s.pairs.isEmpty then
    some .noPairs
  else
    s.pairs.findSome? s.sizeFault?
    <|> (if Decimal.zero < s.multiplier then none else some (.badMultiplier s.multiplier))
    <|> s.ratiosFault? .buy
    <|> s.ratiosFault? .sell
    <|> (if s.tick = 0 then some .noTick else none)

def check (s : Settings) : Except Failure Unit :=
  match s.fault? with
  | none => .ok ()
  | some fault => .error (.settings fault.message)

end Settings

end QuoteKeeper
