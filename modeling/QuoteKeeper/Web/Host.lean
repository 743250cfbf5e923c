import QuoteKeeper.Text.Natural
import QuoteKeeper.Web.Domain

/-!
# Hosts

A host is a name or a number. A number of 32 bits is written as up to four parts, the last of which
fills all octets that are left; one of 128 bits stands in brackets, as eight pieces of which one run
of zeros may be left out.
-/

namespace QuoteKeeper

namespace Web

/-- Why an address cannot be read. -/
inductive UrlFault where
  | emptyHost
  | badName
  | badService
  | badShortNumber
  | badLongNumber
  | badCharacter
  | noScheme
deriving DecidableEq

def UrlFault.message : UrlFault → String
  | emptyHost => "empty host"
  | badName => "invalid international domain name"
  | badService => "invalid port number"
  | badShortNumber => "invalid IPv4 address"
  | badLongNumber => "invalid IPv6 address"
  | badCharacter => "invalid domain character"
  | noScheme => "relative URL without a base"

inductive Host where
  | name (text : String)
  /-- A number of 32 bits. -/
  | short (number : Nat)
  /-- A number of 128 bits, as eight pieces. -/
  | long (pieces : List Nat)
deriving DecidableEq

/-! ### Numbers of 32 bits -/

/-- The value of digits in a base, if all of them are digits of it. -/
def valueIn? (base : Nat) (cs : List Char) : Option Nat :=
  cs.foldlM
    (fun n c => (Text.hexDigit? c).bind fun d => if d < base then some (n * base + d) else none) 0

/-- A part: decimal, octal after a zero, or hexadecimal after a zero and an x. -/
def part? : List Char → Option Nat
  | [] => none
  | '0' :: 'x' :: rest => valueIn? 16 rest
  | '0' :: 'X' :: rest => valueIn? 16 rest
  | '0' :: c :: rest => valueIn? 8 (c :: rest)
  | cs => valueIn? 10 cs

/-- The labels of a name, without the empty one after a full stop at the end. -/
def labels (cs : List Char) : List (List Char) :=
  let all := Text.splitChars '.' cs
  match all.reverse with
  | [] :: rest@(_ :: _) => rest.reverse
  | _ => all

/-- Whether a name has to be read as a number: its last label is one, or is all decimal digits. -/
def endsInNumber (cs : List Char) : Bool :=
  match (labels cs).getLast? with
  | none => false
  | some last => (!last.isEmpty && last.all Char.isDigit) || (part? last).isSome

/-- All parts but the last are octets, and the last fills the rest. -/
def joinParts? : Nat → List Nat → Option Nat
  | _, [] => none
  | octets, [last] => if last < Nat.pow 256 octets then some last else none
  | octets, n :: rest =>
    if n < 256 then (joinParts? (octets - 1) rest).map (n * Nat.pow 256 (octets - 1) + ·) else none

def short? (cs : List Char) : Option Nat :=
  let parts := labels cs
  if parts.length ≤ 4 then (parts.mapM part?).bind (joinParts? 4) else none

/-! ### Numbers of 128 bits -/

/-- A decimal octet without a zero in front. -/
def octet? (cs : List Char) : Option Nat :=
  match cs with
  | '0' :: _ :: _ => none
  | [] => none
  | _ => if cs.all Char.isDigit && cs.length ≤ 3 then
      (valueIn? 10 cs).bind fun n => if n < 256 then some n else none
    else
      none

/-- The two pieces of four octets. -/
def octetPieces? (cs : List Char) : Option (List Nat) := do
  match ← (Text.splitChars '.' cs).mapM octet? with
  | [a, b, c, d] => some [a * 256 + b, c * 256 + d]
  | _ => none

/-- One to four hexadecimal digits. -/
def piece? (cs : List Char) : Option Nat :=
  if cs.isEmpty || 4 < cs.length then none else valueIn? 16 cs

/-- The pieces of groups, of which the last may be four octets if the number ends there. -/
def pieces? (isLast : Bool) : List (List Char) → Option (List Nat)
  | [] => some []
  | [group] =>
    if isLast && group.contains '.' then octetPieces? group else (piece? group).map ([·])
  | group :: rest => do
    let piece ← piece? group
    let pieces ← pieces? isLast rest
    return piece :: pieces

/-- The pieces on one side of the run that is left out. -/
def side? (isLast : Bool) (cs : List Char) : Option (List Nat) :=
  if cs.isEmpty then some [] else pieces? isLast (Text.splitChars ':' cs)

/-- The characters before and after the first two colons in a row. -/
def cutAtRun : List Char → Option (List Char × List Char)
  | [] => none
  | ':' :: ':' :: rest => some ([], rest)
  | c :: rest => (cutAtRun rest).map fun (before, after) => (c :: before, after)

def long? (cs : List Char) : Option (List Nat) := do
  match cutAtRun cs with
  | none =>
    let pieces ← pieces? true (Text.splitChars ':' cs)
    if pieces.length = 8 then some pieces else none
  | some (before, after) =>
    let front ← side? false before
    let back ← side? true after
    if front.length + back.length < 8 then
      some (front ++ List.replicate (8 - front.length - back.length) 0 ++ back)
    else
      none

/-! ### Text -/

/-- How many of the pieces from here on are zero. -/
def zerosAhead (pieces : List Nat) : Nat := (pieces.takeWhile (· = 0)).length

/-- The first of the longest runs of zeros: where it begins and how long it is. -/
def longestRun (pieces : List Nat) : Nat × Nat :=
  (List.range pieces.length).foldl
    (fun best i =>
      let zeros := zerosAhead (pieces.drop i)
      if best.2 < zeros then (i, zeros) else best)
    (0, 0)

def hexText (n : Nat) : String := String.ofList (Nat.toDigits 16 n)

def piecesText (pieces : List Nat) : String := ":".intercalate (pieces.map hexText)

namespace Host

def text : Host → String
  | name text => text
  | short n =>
    let octets := [n / 256 / 256 / 256, n / 256 / 256 % 256, n / 256 % 256, n % 256]
    ".".intercalate (octets.map toString)
  | long pieces =>
    let (start, zeros) := longestRun pieces
    if zeros < 2 then
      "[" ++ piecesText pieces ++ "]"
    else
      let after := pieces.drop (start + zeros)
      "[" ++ piecesText (pieces.take start) ++ "::" ++ piecesText after ++ "]"

/-- A host in brackets. -/
def ofBrackets (rest : List Char) : Except UrlFault Host :=
  match rest.reverse with
  | ']' :: inner =>
    match long? inner.reverse with
    | some pieces => .ok (long pieces)
    | none => .error .badLongNumber
  | _ => .error .badLongNumber

/-- A host of a scheme whose hosts are names of the domain system. -/
def ofText : List Char → Except UrlFault Host
  | '[' :: rest => ofBrackets rest
  | cs =>
    match domain? cs with
    | none => .error .badName
    | some [] => .error .emptyHost
    | some domain =>
      if endsInNumber domain then
        match short? domain with
        | some n => .ok (short n)
        | none => .error .badShortNumber
      else
        .ok (name (String.ofList domain))

/-- Characters that a host of another scheme does not have. -/
def isBarred (c : Char) : Bool := "\x00\t\n\r #/:<>?@[\\]^|".toList.contains c

/-- A host of another scheme. -/
def ofPlain : List Char → Except UrlFault Host
  | '[' :: rest => ofBrackets rest
  | cs =>
    if cs.any isBarred then .error .badCharacter else .ok (name (Part.plain.encode cs))

end Host

end Web

end QuoteKeeper
