/-!
# Decimal numbers of bounded size

A value is a coefficient of at most 96 bits, a scale of at most 28 decimal places and a sign. The
scale is part of the value: 1.10 and 1.1 are different values that compare equal, and a zero may
carry a sign. This module holds the type, its text and its order; no arithmetic.
-/

namespace QuoteKeeper

/-- `coefficient / 10 ^ scale`, negated if `negative` is set. -/
structure Decimal where
  negative : Bool := false
  coefficient : Nat
  scale : Nat := 0
  coefficient_le : coefficient ≤ 79228162514264337593543950335 := by decide
  scale_le : scale ≤ 28 := by decide
deriving DecidableEq

namespace Decimal

/-- The largest coefficient, `2 ^ 96 - 1`. -/
def limit : Nat := 79228162514264337593543950335

/-- The largest number of decimal places. -/
def places : Nat := 28

def zero : Decimal := { coefficient := 0 }

def one : Decimal := { coefficient := 1 }

def two : Decimal := { coefficient := 2 }

instance : Inhabited Decimal := ⟨zero⟩

/-- The decimal with these parts, if they are within bounds. -/
def ofParts? (negative : Bool) (coefficient scale : Nat) : Option Decimal :=
  if h : coefficient ≤ limit ∧ scale ≤ places then
    some { negative, coefficient, scale, coefficient_le := h.1, scale_le := h.2 }
  else
    none

/-- A literal keeps the places it is written with; one out of bounds is zero. -/
instance : OfScientific Decimal where
  ofScientific digits isFraction places :=
    (if isFraction then ofParts? false digits places
      else ofParts? false (digits * Nat.pow 10 places) 0).getD zero

def isZero (a : Decimal) : Bool := a.coefficient == 0

/-- The coefficient with its sign. -/
def signed (a : Decimal) : Int :=
  if a.negative then -(a.coefficient : Int) else a.coefficient

/-- The coefficient with its sign and some zeros after it. -/
def lengthened (a : Decimal) (zeros : Nat) : Int := a.signed * (Nat.pow 10 zeros : Nat)

/-- The order is that of the numbers, whatever the scales; all zeros are equal in it. -/
def le (a b : Decimal) : Prop :=
  a.lengthened b.scale ≤ b.lengthened a.scale

/-- Strict order of the numbers. -/
def lt (a b : Decimal) : Prop :=
  a.lengthened b.scale < b.lengthened a.scale

instance : LE Decimal := ⟨le⟩
instance : LT Decimal := ⟨lt⟩

instance (a b : Decimal) : Decidable (a ≤ b) := inferInstanceAs (Decidable (_ ≤ (_ : Int)))
instance (a b : Decimal) : Decidable (a < b) := inferInstanceAs (Decidable (_ < (_ : Int)))

/-- The sign is flipped, that of a zero too. -/
def neg (a : Decimal) : Decimal := { a with negative := !a.negative }

/-- The larger of two; of two equal numbers, the first. -/
def max (a b : Decimal) : Decimal := if a < b then b else a

/-- `a` itself if it is above zero. -/
def positive? (a : Decimal) : Option Decimal := if zero < a then some a else none

/-- Digits with exactly `scale` places; the sign is shown on a zero too. -/
def text (a : Decimal) : String :=
  let sign := if a.negative then "-" else ""
  if a.scale = 0 then
    sign ++ toString a.coefficient
  else
    let fraction := toString (a.coefficient % Nat.pow 10 a.scale)
    let zeros := String.ofList (List.replicate (a.scale - fraction.length) '0')
    sign ++ toString (a.coefficient / Nat.pow 10 a.scale) ++ "." ++ zeros ++ fraction

instance : ToString Decimal := ⟨text⟩

end Decimal

end QuoteKeeper
