import QuoteKeeper.Decimal.Arithmetic

/-!
# Quotient

Long division, up to nine digits a step, until the remainder is zero or no further digit fits; the
last digit is then rounded half to even. A quotient that needed digits after the point loses
trailing zeros, in groups of eight, four, two and one, each group only while the coefficient is
divisible by the group's power of two as well: 1/2 is 0.50.
-/

namespace QuoteKeeper

namespace Decimal

/-- The largest number of further digits, at most `bound`, for which `q` at `s` places has room. -/
def headroom (q : Nat) (s : Int) : Nat → Nat
  | 0 => 0
  | x + 1 =>
    if q * Nat.pow 10 (x + 1) ≤ limit ∧ s + (x + 1 : Nat) ≤ 28 then x + 1 else headroom q s x

theorem headroom_places (q : Nat) (s : Int) (bound : Nat) :
    headroom q s bound = 0 ∨ s + headroom q s bound ≤ 28 := by
  induction bound with
  | zero => exact Or.inl rfl
  | succ x ih =>
    unfold headroom
    split
    · rename_i fits
      exact Or.inr fits.2
    · exact ih

/-- The number of digits of the next step. -/
def stride (q : Nat) (s : Int) : { x : Nat // x = 0 ∨ s + x ≤ 28 } :=
  ⟨headroom q s 9, headroom_places q s 9⟩

theorem fewer_places {s : Int} {x : Nat} (inPlaces : x = 0 ∨ s + x ≤ 28) (notFull : ¬x = 0) :
    (28 - (s + x)).toNat < (28 - s).toNat := by
  omega

/-- Missing whole digits are zeros, if they fit. -/
def withWhole (q : Nat) (s : Int) : Option (Nat × Nat) :=
  if 0 ≤ s then
    some (q, s.toNat)
  else
    let filled := q * Nat.pow 10 (-s).toNat
    if filled ≤ limit then some (filled, 0) else none

/-- Digits one place too long give up the last one; `sticky` says that something nonzero follows. -/
def carry (q : Nat) (s : Int) (sticky : Bool) : Option (Nat × Nat) :=
  if s < 1 then
    none
  else
    let up := decide (5 < q % 10) || (decide (q % 10 = 5) && (sticky || decide (q / 10 % 2 = 1)))
    some (if up then q / 10 + 1 else q / 10, (s - 1).toNat)

/-- What one step of the division leads to, from `s` places: an answer, or more digits and a
remainder at more places. -/
inductive Step (s : Int) where
  | done (answer : Option (Nat × Nat))
  | more (digits rest : Nat) (places : Int) (closer : (28 - places).toNat < (28 - s).toNat)

/-- Divide on by `d` from the digits `q` at `s` places, with the remainder `r` still to be spent. -/
def step (d q r : Nat) (s : Int) : Step s :=
  if r = 0 then
    .done (withWhole q s)
  else
    match stride q s with
    | ⟨x, inPlaces⟩ =>
      if x < 9 ∧ s + x < 0 then
        .done none
      else if full : x = 0 then
        let rounded := halfEven (q * d + r) d
        .done (if rounded ≤ limit then some (rounded, s.toNat) else carry rounded s true)
      else
        let longer := q * Nat.pow 10 x + r * Nat.pow 10 x / d
        let rest := r * Nat.pow 10 x % d
        if longer ≤ limit then
          .more longer rest (s + x) (fewer_places inPlaces full)
        else
          .done (carry longer (s + x) (rest != 0))

/-- Steps up to an answer. -/
def expand (d q r : Nat) (s : Int) : Option (Nat × Nat) :=
  match step d q r s with
  | .done answer => answer
  | .more digits rest places _ => expand d digits rest places
termination_by (28 - s).toNat
decreasing_by assumption

/-- Zeros at the end go eight at a time. -/
def dropEights (q s : Nat) : Nat × Nat :=
  if q % wordBound = 0 ∧ 8 ≤ s ∧ q % Nat.pow 10 8 = 0 then dropEights (q / Nat.pow 10 8) (s - 8)
  else (q, s)
termination_by s

/-- One group of `n` zeros at the end goes, if the coefficient is divisible by `2 ^ n` too. -/
def dropGroup (n : Nat) (v : Nat × Nat) : Nat × Nat :=
  if v.1 % Nat.pow 2 n = 0 ∧ n ≤ v.2 ∧ v.1 % Nat.pow 10 n = 0 then (v.1 / Nat.pow 10 n, v.2 - n)
  else v

/-- What an inexact division leaves of the zeros at the end. -/
def dropZeros (v : Nat × Nat) : Nat × Nat :=
  dropGroup 1 (dropGroup 2 (dropGroup 4 (dropEights v.1 v.2)))

/-- `none` if the divisor is zero or the quotient too large. A zero dividend gives the plain zero,
and a quotient that rounds to zero has no sign. -/
def div? (a b : Decimal) : Option Decimal :=
  if b.isZero then
    none
  else if a.isZero then
    some zero
  else do
    let q := a.coefficient / b.coefficient
    let r := a.coefficient % b.coefficient
    let s : Int := a.scale - b.scale
    let (digits, scale) ←
      if r = 0 then withWhole q s else (expand b.coefficient q r s).map dropZeros
    ofParts? (digits != 0 && (a.negative != b.negative)) digits scale

end Decimal

end QuoteKeeper
