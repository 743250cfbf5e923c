/-!
# Whole numbers

The digits are those of ASCII; a plus sign is allowed in front of a number, nothing else.
-/

namespace QuoteKeeper

namespace Text

/-- The value of a digit. -/
def digit? (c : Char) : Option Nat :=
  if c.isDigit then some (c.toNat - '0'.toNat) else none

/-- The value of a hexadecimal digit of either case. -/
def hexDigit? (c : Char) : Option Nat :=
  if 'a' ≤ c ∧ c ≤ 'f' then some (c.toNat - 'a'.toNat + 10)
  else if 'A' ≤ c ∧ c ≤ 'F' then some (c.toNat - 'A'.toNat + 10)
  else digit? c

/-- A whole number below `bound`: an optional plus and at least one digit. -/
def naturalBelow? (bound : Nat) (cs : List Char) : Option Nat :=
  let digits := match cs with
    | '+' :: rest => rest
    | _ => cs
  if digits.isEmpty then
    none
  else do
    let n ← digits.foldlM (fun n c => (digit? c).map (n * 10 + ·)) 0
    if n < bound then some n else none

/-- A whole number of at most 64 bits. -/
def word? (s : String) : Option Nat := naturalBelow? (Nat.pow 2 64) s.toList

end Text

end QuoteKeeper
