import QuoteKeeper.Text.Natural

/-!
# Percent signs in addresses

What may not stand in a part of an address is written as its UTF-8 octets, each a percent sign and
two hexadecimal digits. A percent sign that was there before stays as it is.
-/

namespace QuoteKeeper

namespace Web

/-- The parts of an address that differ in what may stand in them. -/
inductive Part where
  /-- A path without segments, and a host of an unknown scheme. -/
  | plain
  | fragment
  | query
  /-- The query of a scheme of the web. -/
  | webQuery
  | path
  | user
deriving DecidableEq

/-- Characters that are written as they are nowhere: controls, and all that is not ASCII. -/
def isControl (c : Char) : Bool := decide (c.toNat < 0x20) || decide (0x7E < c.toNat)

/-- Characters that are not written as they are in a part. -/
def Part.escapes (part : Part) (c : Char) : Bool :=
  isControl c || match part with
    | plain => false
    | fragment => " \"<>`".toList.contains c
    | query => " \"#<>".toList.contains c
    | webQuery => " \"#<>'".toList.contains c
    | path => " \"<>`#?\x7b\x7d".toList.contains c
    | user => " \"<>`#?\x7b\x7d/:;=@[\\]^|".toList.contains c

/-- A hexadecimal digit, as a capital. -/
def hexDigit (n : Nat) : Char := Char.ofNat (if n < 10 then 0x30 + n else 0x37 + n)

def percentByte (octet : UInt8) : List Char :=
  ['%', hexDigit (octet.toNat / 16), hexDigit (octet.toNat % 16)]

/-- Some characters as they are written in a part. -/
def Part.encode (part : Part) (cs : List Char) : String :=
  String.ofList <| cs.flatMap fun c =>
    if part.escapes c then (String.singleton c).toUTF8.toList.flatMap percentByte else [c]

/-- The octet of two digits. -/
def hexByte? (high low : UInt8) : Option UInt8 := do
  let h ← Text.hexDigit? (Char.ofNat high.toNat)
  let l ← Text.hexDigit? (Char.ofNat low.toNat)
  return UInt8.ofNat (h * 16 + l)

/-- With a percent sign and two digits read as one octet; other percent signs stay. -/
def percentDecode : List UInt8 → List UInt8
  | [] => []
  | [a] => [a]
  | [a, b] => [a, b]
  | a :: b :: c :: rest =>
    if a = 0x25 then
      match hexByte? b c with
      | some octet => octet :: percentDecode rest
      | none => a :: percentDecode (b :: c :: rest)
    else
      a :: percentDecode (b :: c :: rest)

end Web

end QuoteKeeper
