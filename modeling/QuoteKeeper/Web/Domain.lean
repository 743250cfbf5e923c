import QuoteKeeper.Text.Octets
import QuoteKeeper.Web.Label
import QuoteKeeper.Web.Percent

/-!
# Domain names

A name is spelled in one way, in normal form, and then written in ASCII label by label.
-/

namespace QuoteKeeper

namespace Web

open Text

/-- Characters of ASCII that no name has: those that mean something in an address, controls and the
blank. -/
def isForbidden (c : Char) : Bool :=
  decide (c.toNat ≤ 0x20) || decide (c.toNat = 0x7F) || "%#/:<>?@[\\]^|".toList.contains c

/-- The one spelling of a text, if all its characters may be in a name. -/
def spelling? (cs : List Char) : Option (List Char) := do
  let spelled ← cs.mapM spell
  let normal := normalize spelled.flatten
  if normal.any isForbidden then none else some normal

/-- A name in ASCII. Its characters may also be written with percent signs. -/
def domain? (cs : List Char) : Option (List Char) := do
  let octets := percentDecode (String.ofList cs).toUTF8.toList
  let spelled ← spelling? (utf8From none octets)
  let labels ← (splitChars '.' spelled).mapM (Label.read? spelling?)
  let isMixed := labels.any fun label => hasLeftward label.chars
  if isMixed && !labels.all fun label => keepsDirection label.chars then none
  else some (['.'].intercalate (labels.map (·.ascii)))

end Web

end QuoteKeeper
