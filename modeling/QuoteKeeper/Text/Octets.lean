/-!
# Text from octets

The octets of a text are UTF-8, unless they begin with the byte order mark of another encoding form;
a mark is not part of the text. Nothing is refused: what encodes no character becomes a replacement
character, one for each longest beginning of a character that is broken off.
-/

namespace QuoteKeeper

namespace Text

/-- What stands where no character could be read. -/
def replacement : Char := '\ufffd'

/-- A character of several octets that has begun: the bits so far, the number of octets to come and
the bounds of the next one. -/
structure Begun where
  bits : Nat
  missing : Nat
  low : Nat
  high : Nat
deriving DecidableEq

/-- What an octet says that follows a complete character. -/
def first (octet : Nat) : List Char × Option Begun :=
  if octet < 0x80 then
    ([Char.ofNat octet], none)
  else if 0xC2 ≤ octet ∧ octet ≤ 0xDF then
    ([], some ⟨octet - 0xC0, 1, 0x80, 0xBF⟩)
  else if 0xE0 ≤ octet ∧ octet ≤ 0xEF then
    ([], some ⟨octet - 0xE0, 2, if octet = 0xE0 then 0xA0 else 0x80,
      if octet = 0xED then 0x9F else 0xBF⟩)
  else if 0xF0 ≤ octet ∧ octet ≤ 0xF4 then
    ([], some ⟨octet - 0xF0, 3, if octet = 0xF0 then 0x90 else 0x80,
      if octet = 0xF4 then 0x8F else 0xBF⟩)
  else
    ([replacement], none)

/-- What an octet says that follows the beginning of a character. -/
def Begun.next (b : Begun) (octet : Nat) : List Char × Option Begun :=
  if b.low ≤ octet ∧ octet ≤ b.high then
    let bits := b.bits * 64 + (octet - 0x80)
    if b.missing ≤ 1 then ([Char.ofNat bits], none)
    else ([], some ⟨bits, b.missing - 1, 0x80, 0xBF⟩)
  else
    let (chars, begun) := first octet
    (replacement :: chars, begun)

/-- The characters of octets that come after `begun`. -/
def utf8From (begun : Option Begun) : List UInt8 → List Char
  | [] => if begun.isSome then [replacement] else []
  | octet :: rest =>
    let (chars, begun) := match begun with
      | none => first octet.toNat
      | some b => b.next octet.toNat
    chars ++ utf8From begun rest

/-- The units of two octets each, and whether one octet is left over. -/
def unitsOf (unit : UInt8 → UInt8 → Nat) : List UInt8 → List Nat × Bool
  | [] => ([], false)
  | [_] => ([], true)
  | a :: b :: rest =>
    let (units, odd) := unitsOf unit rest
    (unit a b :: units, odd)

/-- The characters of units that come after the first half of a pair, if there is one. -/
def utf16From (odd : Bool) (half : Option Nat) : List Nat → List Char
  | [] => if half.isSome || odd then [replacement] else []
  | u :: rest =>
    let broken := if half.isSome then [replacement] else []
    if 0xD800 ≤ u ∧ u ≤ 0xDBFF then
      broken ++ utf16From odd (some u) rest
    else if 0xDC00 ≤ u ∧ u ≤ 0xDFFF then
      let c := match half with
        | some h => Char.ofNat (0x10000 + (h - 0xD800) * 0x400 + (u - 0xDC00))
        | none => replacement
      c :: utf16From odd none rest
    else
      broken ++ Char.ofNat u :: utf16From odd none rest

/-- The text in two-octet units. -/
def utf16 (unit : UInt8 → UInt8 → Nat) (octets : List UInt8) : List Char :=
  let (units, odd) := unitsOf unit octets
  utf16From odd none units

/-- The text of some octets. -/
def ofOctets (octets : List UInt8) : String :=
  String.ofList <| match octets with
    | 0xEF :: 0xBB :: 0xBF :: rest => utf8From none rest
    | 0xFE :: 0xFF :: rest => utf16 (fun a b => a.toNat * 256 + b.toNat) rest
    | 0xFF :: 0xFE :: rest => utf16 (fun a b => b.toNat * 256 + a.toNat) rest
    | _ => utf8From none octets

end Text

end QuoteKeeper
