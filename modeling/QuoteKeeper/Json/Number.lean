import QuoteKeeper.Json.Fault

/-!
# Numbers in JSON

The grammar of a number as stages, fed one character at a time, and the reading of a text that is to
be one number and nothing else.
-/

namespace QuoteKeeper

namespace Json

/-- How far the reading of a number has come. -/
inductive NumberStage where
  | start
  | minus
  | zero
  | whole
  | point
  | fraction
  | mark
  | sign
  | exponent
deriving DecidableEq

/-- The next stage of a number: `none` if the character does not belong to it. The text so far, last
character first, gets the character, and the sign of an exponent if it has none. -/
def NumberStage.next (stage : NumberStage) (text : List Char) (c : Char) :
    Option (NumberStage × List Char) :=
  match stage with
  | start => if c = '-' then some (minus, c :: text) else zeroOrDigit
  | minus => zeroOrDigit
  | zero => pointOrMark
  | whole => if c.isDigit then some (whole, c :: text) else pointOrMark
  | point => digit fraction
  | fraction => if c.isDigit then some (fraction, c :: text) else mark?
  | mark =>
    if c = '+' || c = '-' then some (sign, c :: text)
    else if c.isDigit then some (exponent, c :: '+' :: text)
    else none
  | sign => digit exponent
  | exponent => digit exponent
where
  digit (next : NumberStage) : Option (NumberStage × List Char) :=
    if c.isDigit then some (next, c :: text) else none
  zeroOrDigit : Option (NumberStage × List Char) :=
    if c = '0' then some (zero, c :: text) else digit whole
  mark? : Option (NumberStage × List Char) :=
    if c = 'e' || c = 'E' then some (mark, 'e' :: text) else none
  pointOrMark : Option (NumberStage × List Char) :=
    if c = '.' then some (point, c :: text) else mark?

/-- A number may end here. -/
def NumberStage.isComplete : NumberStage → Bool
  | zero | whole | fraction | exponent => true
  | start | minus | point | mark | sign => false

/-- The next byte is taken before it is known to fit. -/
def NumberStage.takesByte : NumberStage → Bool
  | minus | mark | sign => true
  | start | zero | whole | point | fraction | exponent => false

def numberText (text : List Char) : String := String.ofList text.reverse

/-- Read the rest of a text that is to be one number. The byte at fault is the one that does not
fit; if that byte was taken and another follows, it is the other. -/
def readNumberFrom (whole : String) (stage : NumberStage) (text : List Char) (offset : Nat) :
    List Char → Except Fault String
  | [] =>
    if stage.isComplete then .ok (numberText text)
    else .error { cause := .endInValue, offset, text := whole }
  | c :: cs =>
    match stage.next text c with
    | some (stage, text) => readNumberFrom whole stage text (offset + c.utf8Size) cs
    | none =>
      let isLast := c.utf8Size == 1 && cs.isEmpty
      let byte := if stage.takesByte && !isLast then 2 else 1
      .error { cause := .invalidNumber, offset := offset + byte, text := whole }

/-- The number that a text spells, its exponent written with a sign. -/
def readNumber (s : String) : Except Fault String := readNumberFrom s .start [] 0 s.toList

end Json

end QuoteKeeper
