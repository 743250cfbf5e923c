import QuoteKeeper.Decimal.Arithmetic

/-!
# Arithmetic that must not overflow

Where a sum has no way to fail, an overflow is a breakdown of whoever computes it.
-/

namespace QuoteKeeper

inductive Overflow where
  | addition
  | subtraction
  | multiplication
deriving DecidableEq

def Overflow.message : Overflow → String
  | addition => "Addition overflowed"
  | subtraction => "Subtraction overflowed"
  | multiplication => "Multiplication overflowed"

namespace Decimal

def add (a b : Decimal) : Except Overflow Decimal :=
  match add? a b with
  | some c => .ok c
  | none => .error .addition

def sub (a b : Decimal) : Except Overflow Decimal :=
  match sub? a b with
  | some c => .ok c
  | none => .error .subtraction

def mul (a b : Decimal) : Except Overflow Decimal :=
  match mul? a b with
  | some c => .ok c
  | none => .error .multiplication

end Decimal

end QuoteKeeper
