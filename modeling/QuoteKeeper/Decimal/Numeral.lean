import QuoteKeeper.Decimal.Arithmetic
import QuoteKeeper.Text.Natural

/-!
# Reading decimals

A numeral is an optional sign, digits with at most one point, and underscores anywhere after the
first digit. Digits beyond the 28th place, or beyond the largest coefficient, are not read: the
first of them rounds, a five up, and the rest must only be well formed. A numeral that fails and
holds an `e` is read again as a coefficient with an exponent. A zero without exponent has no sign.
-/

namespace QuoteKeeper

namespace Decimal

/-- Why a text is no decimal. -/
inductive NumeralError where
  | empty
  | noDigits
  | secondPoint
  | leadingUnderscore
  | unknownCharacter
  | tooManyDigits
  | roundsTooLarge
  | badExponent
  | exponentTooLarge (exponent : Nat)
  | tooLarge
deriving DecidableEq

namespace NumeralError

def message : NumeralError → String
  | empty => "Invalid decimal: empty"
  | noDigits => "Invalid decimal: no digits found"
  | secondPoint => "Invalid decimal: two decimal points"
  | leadingUnderscore => "Invalid decimal: must start lead with a number"
  | unknownCharacter => "Invalid decimal: unknown character"
  | tooManyDigits => "Invalid decimal: overflow from too many digits"
  | roundsTooLarge => "Invalid decimal: overflow from mantissa after rounding"
  | badExponent => "Failed to parse"
  | exponentTooLarge n =>
    "Scale exceeds the maximum precision allowed: " ++ toString n ++ " > 28"
  | tooLarge => "Number exceeds maximum value that can be represented."

/-- The complaint about a character that cannot stand where it is, once a point has been read. -/
def misplaced (c : Char) : NumeralError :=
  if c = '.' then secondPoint
  else if c = '_' then leadingUnderscore
  else unknownCharacter

end NumeralError

/-- A coefficient and its places. -/
structure Digits where
  coefficient : Nat
  scale : Nat
deriving DecidableEq

namespace Digits

/-- Round on the first digit that is not read. A coefficient that rounds past the limit loses its
last place. -/
def round (d : Digits) (next : Nat) : Except NumeralError Digits :=
  if next < 5 then
    .ok d
  else if d.coefficient + 1 ≤ limit then
    .ok { d with coefficient := d.coefficient + 1 }
  else if d.scale = 0 then
    .error .roundsTooLarge
  else
    .ok { coefficient := (d.coefficient + 5) / 10, scale := d.scale - 1 }

/-- What follows the rounding digit has no value but must be digits and underscores. -/
def dropRest (d : Digits) (rest : List Char) : Except NumeralError Digits :=
  match rest.find? (fun c => !c.isDigit && c != '_') with
  | some c => .error (.misplaced c)
  | none => .ok d

/-- From here on up, underscores before the rounding digit are skipped; below, the first of them
stands for a zero. -/
def underscoreBound : Nat := (Nat.pow 2 64 - 1) / 10 - 255

/-- The coefficient has all the places it can have; `rest` starts with the rounding digit. -/
def close (d : Digits) (rest : List Char) : Except NumeralError Digits :=
  match rest with
  | [] => .ok d
  | c :: after =>
    if c = '_' then
      if d.coefficient < underscoreBound then
        d.dropRest after
      else
        match after.dropWhile (· = '_') with
        | [] => .ok d
        | c :: after => roundOn c after
    else
      roundOn c after
where
  roundOn (c : Char) (after : List Char) : Except NumeralError Digits :=
    match Text.digit? c with
    | none => .error (.misplaced c)
    | some n => do (← d.round n).dropRest after

end Digits

/-- Read on after the sign. `point`: a point has been read; `seen`: a digit has been read. -/
def readDigits (point seen : Bool) (d : Digits) : List Char → Except NumeralError Digits
  | [] => if seen then .ok d else .error .noDigits
  | c :: rest =>
    if point && d.scale == places then
      d.close (c :: rest)
    else
      match Text.digit? c with
      | some n =>
        if d.coefficient * 10 + n ≤ limit then
          let scale := if point then d.scale + 1 else 0
          readDigits point true { coefficient := d.coefficient * 10 + n, scale } rest
        else if point then
          d.close (c :: rest)
        else
          .error .tooManyDigits
      | none =>
        if c = '.' && !point then readDigits true seen d rest
        else if c = '_' && seen then readDigits point seen d rest
        else .error (.misplaced c)

/-- The sign, if any, and the rest. -/
def splitSign : List Char → Bool × List Char
  | '-' :: rest => (true, rest)
  | '+' :: rest => (false, rest)
  | cs => (false, cs)

/-- Read a numeral without exponent. -/
def readPlain (cs : List Char) : Except NumeralError Decimal :=
  if cs.isEmpty then
    .error .empty
  else do
    let (negative, rest) := splitSign cs
    let d ← readDigits false false ⟨0, 0⟩ rest
    match ofParts? (negative && d.coefficient != 0) d.coefficient d.scale with
    | some a => .ok a
    | none => .error .tooLarge

/-- Trailing zeros after the point, removed. -/
def dropPlaces (coefficient : Nat) : Nat → Nat × Nat
  | 0 => (coefficient, 0)
  | s + 1 => if coefficient % 10 = 0 then dropPlaces (coefficient / 10) s else (coefficient, s + 1)

/-- Shift the point `n` places to the left; digits past the last place are rounded half up. -/
def shiftDown (a : Decimal) (n : Nat) : Except NumeralError Decimal :=
  if places < n then
    .error (.exponentTooLarge n)
  else
    let drop := a.scale + n - places
    let coefficient :=
      if drop = 0 then a.coefficient else 
        (a.coefficient + 5 * Nat.pow 10 (drop - 1)) / Nat.pow 10 drop
    match ofParts? a.negative coefficient (a.scale + n - drop) with
    | some b => .ok b
    | none => .error .tooLarge

/-- A power of ten. -/
def tenPower? (n : Nat) : Option Decimal := ofParts? false (Nat.pow 10 n) 0

/-- Shift the point `n` places to the right, in factors of at most `10 ^ 19`. -/
def shiftUp (a : Decimal) (n : Nat) : Except NumeralError Decimal :=
  if n ≤ a.scale then
    match ofParts? a.negative a.coefficient (a.scale - n) with
    | some b => .ok b
    | none => .error .tooLarge
  else if places < n then
    .error (.exponentTooLarge n)
  else
    let first := Nat.min n 19
    let shifted := do
      let b ← mul? a (← tenPower? first)
      let c ← if n - first = 0 then some b else mul? b (← tenPower? (n - first))
      let (coefficient, scale) := dropPlaces c.coefficient c.scale
      ofParts? (c.negative && coefficient != 0) coefficient scale
    match shifted with
    | some b => .ok b
    | none => .error .tooLarge

def isExponentMark (c : Char) : Bool := c = 'e' || c = 'E'

/-- Read a coefficient, an exponent mark and an exponent of at most 32 bits. -/
def readScientific (cs : List Char) : Except NumeralError Decimal := do
  let a ← readPlain (cs.takeWhile (!isExponentMark ·))
  match (cs.dropWhile (!isExponentMark ·)).drop 1 with
  | '-' :: exponent =>
    match Text.naturalBelow? wordBound exponent with
    | some n => a.shiftDown n
    | none => .error .badExponent
  | exponent =>
    match Text.naturalBelow? wordBound exponent with
    | some n => a.shiftUp n
    | none => .error .badExponent

/-- Read a decimal, with or without exponent. -/
def ofText (s : String) : Except NumeralError Decimal :=
  let cs := s.toList
  match readPlain cs with
  | .ok a => .ok a
  | .error e => if cs.any isExponentMark then readScientific cs else .error e

end Decimal

end QuoteKeeper
