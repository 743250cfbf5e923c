import QuoteKeeper.Text.Blank

/-!
# Currency pairs

A pair is written BASE-QUOTE. Reading takes blanks off both ends of the text, not off the
currencies, and raises ASCII letters; each currency must be there and there is one dash.
-/

namespace QuoteKeeper

/-- What is bought or sold, and what it is paid in. -/
structure Pair where
  base : String
  quote : String
deriving DecidableEq, Inhabited

namespace Pair

def text (p : Pair) : String := p.base ++ "-" ++ p.quote

instance : ToString Pair := ⟨text⟩

def ofText? (s : String) : Option Pair :=
  match Text.split '-' (Text.trim s) with
  | [base, quote] =>
    if base ≠ "" ∧ quote ≠ "" then some ⟨Text.upper base, Text.upper quote⟩ else none
  | _ => none

/-- By base, then by quote. -/
def le (p q : Pair) : Bool :=
  decide (p.base < q.base) || (decide (p.base = q.base) && decide (p.quote ≤ q.quote))

end Pair

end QuoteKeeper
