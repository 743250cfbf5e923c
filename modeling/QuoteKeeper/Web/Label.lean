import QuoteKeeper.Text.Direction
import QuoteKeeper.Text.Joining
import QuoteKeeper.Text.Normal
import QuoteKeeper.Web.Punycode
import QuoteKeeper.Web.Spelling

/-!
# Labels

A label is a piece of a name between full stops. One with characters outside ASCII is written in
Punycode after the mark `xn--`; what is written so must be spelled as the name itself would be. A
label does not begin with a combining mark, and invisible joiners stand only where they change how
letters are joined. If any label of a name has letters that are written to the left, all of its
labels keep to one direction.
-/

namespace QuoteKeeper

namespace Web

open Text

/-- The letter before a place and the one after it, marks passed over, join towards each other. The
text before the place has its last character first. -/
def isBetweenJoining (before after : List Char) : Bool :=
  let nearest (cs : List Char) : Option Char := (cs.dropWhile isPassedOver).head?
  (nearest before).any joinsAfter && (nearest after).any joinsBefore

/-- A sign that makes the consonant before it part of a cluster. -/
def isVirama (c : Char) : Bool := decide (combiningClass c = 9)

/-- A joiner may stand after a virama; one that keeps letters apart, also between letters that
would join. -/
def allowsJoiner (c : Char) (before after : List Char) : Bool :=
  before.head?.any isVirama || (decide (c = '\u200C') && isBetweenJoining before after)

/-- All joiners of a text stand where they may, when `before`, last character first, is before
it. -/
def joinersFit (before : List Char) : List Char → Bool
  | [] => true
  | c :: after =>
    (!(decide (c = '\u200C') || decide (c = '\u200D')) || allowsJoiner c before after)
      && joinersFit (c :: before) after

/-! ### Directions -/

/-- Letters of the direction, the figures that go with them, and what goes with both. -/
def goesWith (isLeftward : Bool) : Direction → Bool
  | .rightward => !isLeftward
  | .leftward | .arabicFigure => isLeftward
  | .figure | .mark | .neutral => true

/-- A label ends in a letter or a figure. -/
def mayEnd : Direction → Bool
  | .rightward | .leftward | .figure | .arabicFigure => true
  | .mark | .neutral => false

/-- A label keeps to the direction of the letter that it begins with, ends in a letter or figure,
and has figures of one kind if it is written to the left. -/
def keepsDirection (label : List Char) : Bool :=
  let directions := label.map direction
  match directions with
  | [] => true
  | first :: _ =>
    (first == .rightward || first == .leftward)
      && directions.all (goesWith (first == .leftward))
      && ((directions.reverse.dropWhile (· == .mark)).head?.any mayEnd)
      && !(first == .leftward && directions.contains .figure && directions.contains .arabicFigure)

/-- Whether a label has letters or figures that are written to the left. -/
def hasLeftward (label : List Char) : Bool :=
  label.any fun c => direction c == .leftward || direction c == .arabicFigure

/-! ### Labels in ASCII -/

def isAscii (cs : List Char) : Bool := cs.all fun c => decide (c.toNat < 0x80)

/-- A label as it is read, and the same in ASCII. -/
structure Label where
  chars : List Char
  ascii : List Char

/-- Longer labels are not written in Punycode. -/
def longestLabel : Nat := 1000

/-- Longer texts are not read as Punycode. -/
def longestCode : Nat := 2000

/-- A label that is not in ASCII. -/
def Label.ofChars? (chars : List Char) : Option Label :=
  let isFit := chars.length ≤ longestLabel && !chars.head?.any isMark && joinersFit [] chars
  if isFit then some { chars, ascii := "xn--".toList ++ Punycode.encode chars } else none

/-- The label whose Punycode is given. -/
def Label.ofCode? (spelling : List Char → Option (List Char)) (code : List Char) : Option Label :=
  if code.length ≤ longestCode ∧ code.getLast? ≠ some '-' then do
    let chars ← Punycode.decode code
    if isAscii chars || spelling chars != some chars then none
    else Label.ofChars? chars
  else
    none

/-- A label that is spelled as it has to be. -/
def Label.read? (spelling : List Char → Option (List Char)) (cs : List Char) : Option Label :=
  match cs with
  | 'x' :: 'n' :: '-' :: '-' :: code =>
    if isAscii cs then Label.ofCode? spelling code else none
  | _ => if isAscii cs then some { chars := cs, ascii := cs } else Label.ofChars? cs

end Web

end QuoteKeeper
