import QuoteKeeper.Text.Blank
import QuoteKeeper.Text.Natural

/-!
# Charts of characters

What is known of many characters is kept as a text of rows with blanks between them. A row begins
with code points in hexadecimal: `A` is one, `A-B` are all from A to B, and `A/B` is every other one
from A to B. After a colon come the values that the row gives to its characters, with commas between
them. Charts follow version 17 of Unicode.
-/

namespace QuoteKeeper

namespace Text

/-- The code points `first`, `first + step` and so on up to `last`, and what is said of them. -/
structure Row where
  first : Nat
  last : Nat
  step : Nat
  values : List Nat

abbrev Chart := List Row

/-- The value of hexadecimal digits. -/
def hexValue (cs : List Char) : Nat :=
  cs.foldl (fun n c => n * 16 + (hexDigit? c).getD 0) 0

/-- Read a row. -/
def Row.ofChars (cs : List Char) : Row :=
  let (range, values) := cs.span (· ≠ ':')
  let (first, last) := range.span fun c => c ≠ '-' && c ≠ '/'
  { first := hexValue first
    last := hexValue (if last.isEmpty then first else last.tail)
    step := if last.head? = some '/' then 2 else 1
    values := if values.isEmpty then [] else (splitChars ',' values.tail).map hexValue }

/-- Read a chart. -/
def Chart.ofText (s : String) : Chart :=
  let rows := splitChars ' ' (s.toList.map fun c => if c = '\n' then ' ' else c)
  (rows.filter (!·.isEmpty)).map Row.ofChars

def Row.covers (row : Row) (c : Char) : Bool :=
  decide (row.first ≤ c.toNat) && decide (c.toNat ≤ row.last)
    && decide ((c.toNat - row.first) % row.step = 0)

/-- The first row with a character. -/
def Chart.row? (chart : Chart) (c : Char) : Option Row := chart.find? (·.covers c)

def Chart.has (chart : Chart) (c : Char) : Bool := chart.any (·.covers c)

/-- The values of a row as characters. A single value is that of the first character of the row, and
the other characters of the row have the ones after it. -/
def Row.chars (row : Row) (c : Char) : List Char :=
  match row.values with
  | [value] => [Char.ofNat (value + (c.toNat - row.first))]
  | values => values.map Char.ofNat

/-- What a chart puts in place of a character, if it has it. -/
def Chart.chars? (chart : Chart) (c : Char) : Option (List Char) :=
  (chart.row? c).map (·.chars c)

end Text

end QuoteKeeper
