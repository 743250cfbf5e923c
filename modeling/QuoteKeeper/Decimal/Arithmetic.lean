import QuoteKeeper.Decimal.Basic

/-!
# Sum, difference and product

The exact result is brought back within bounds by dropping decimal places, rounding half to even on
the exact remainder. A result whose whole part does not fit is no value (`none`); an operation never
drops digits before the point.
-/

namespace QuoteKeeper

namespace Decimal

/-- `n / d` rounded to the nearest whole number, a half to the even one. -/
def halfEven (n d : Nat) : Nat :=
  let q := n / d
  let r := n % d
  if d < 2 * r ∨ (2 * r = d ∧ q % 2 = 1) then q + 1 else q

/-- How many last digits have to go before `n` is within the largest coefficient. -/
def excess (n : Nat) : Nat :=
  if n ≤ limit then 0 else excess (n / 10) + 1
termination_by n
decreasing_by simp only [limit] at *; omega

/-- The decimal nearest to `n / 10 ^ s` with as many places as fit. A coefficient that rounds up to
one past the limit loses one more place. -/
def fit (negative : Bool) (n s : Nat) : Option Decimal :=
  let k := Nat.max (s - places) (excess n)
  if s < k then
    none
  else
    let c := halfEven n (Nat.pow 10 k)
    if c ≤ limit then
      ofParts? negative c (s - k)
    else if s = k then
      none
    else
      ofParts? negative (halfEven c 10) (s - k - 1)

/-- A zero operand leaves the other one as it is, scale and sign included. -/
def add? (a b : Decimal) : Option Decimal :=
  if a.isZero then
    some b
  else if b.isZero then
    some a
  else
    let s := Nat.max a.scale b.scale
    let total := a.lengthened (s - a.scale) + b.lengthened (s - b.scale)
    fit (decide (total < 0)) total.natAbs s

/-- A zero operand leaves the other one as it is, up to the sign; a zero is not negated. -/
def sub? (a b : Decimal) : Option Decimal :=
  if a.isZero && b.isZero then some b else add? a b.neg

/-- Coefficients below this bound are multiplied in one machine word. -/
def wordBound : Nat := Nat.pow 2 32

/-- The operands are both within a machine word. -/
def bothShort (a b : Decimal) : Bool :=
  decide (a.coefficient < wordBound ∧ b.coefficient < wordBound)

/-- A zero operand gives the plain zero, and so do two short operands with more than 47 places
together. A product that rounds to zero keeps its sign unless both operands are short. -/
def mul? (a b : Decimal) : Option Decimal :=
  if a.isZero || b.isZero then
    some zero
  else if bothShort a b && decide (47 < a.scale + b.scale) then
    some zero
  else do
    let product ← fit (a.negative != b.negative) (a.coefficient * b.coefficient) (a.scale + b.scale)
    if product.isZero && bothShort a b then
      return { product with negative := false }
    return product

end Decimal

end QuoteKeeper
