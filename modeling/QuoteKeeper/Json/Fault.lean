import QuoteKeeper.Json.Basic
import QuoteKeeper.Text.Natural

/-!
# Faults of JSON texts

What is wrong with a text, where, and how that is said. A place is the number of bytes up to and
including the byte at fault, told as a line and a byte within the line.
-/

namespace QuoteKeeper

namespace Json

/-- Why a text is not JSON. -/
inductive Cause where
  | endInValue
  | endInObject
  | endInList
  | endInString
  | expectedValue
  | expectedIdent
  | expectedColon
  | expectedMemberEnd
  | expectedItemEnd
  | keyNotString
  | trailingComma
  | trailingCharacters
  | invalidNumber
  | notNumeral (value : Value)
  | invalidEscape
  | unexpectedEscapeEnd
  | loneSurrogate
  | controlCharacter
  | tooDeep

/-- The number is whole and fits 64 bits, with a sign only below zero. -/
def isWord (number : String) : Bool :=
  match number.toList with
  | ['-', '0'] => false
  | '-' :: digits => (Text.naturalBelow? (Nat.pow 2 63 + 1) digits).isSome
  | digits => (Text.naturalBelow? (Nat.pow 2 64) digits).isSome

/-- What was found in place of a text. -/
def Value.found : Value → String
  | null => "null"
  | bool b => s!"boolean `{b}`"
  | number text => if isWord text then s!"integer `{text}`" else "number"
  | string text => s!"string \"{text}\""
  | array _ => "sequence"
  | object _ => "map"

def Cause.message : Cause → String
  | endInValue => "EOF while parsing a value"
  | endInObject => "EOF while parsing an object"
  | endInList => "EOF while parsing a list"
  | endInString => "EOF while parsing a string"
  | expectedValue => "expected value"
  | expectedIdent => "expected ident"
  | expectedColon => "expected `:`"
  | expectedMemberEnd => "expected `,` or `\x7d`"
  | expectedItemEnd => "expected `,` or `]`"
  | keyNotString => "key must be a string"
  | trailingComma => "trailing comma"
  | trailingCharacters => "trailing characters"
  | invalidNumber => "invalid number"
  | notNumeral value => "invalid type: " ++ value.found ++ ", expected string containing a number"
  | invalidEscape => "invalid escape"
  | unexpectedEscapeEnd => "unexpected end of hex escape"
  | loneSurrogate => "lone leading surrogate in hex escape"
  | controlCharacter => "control character (\\u0000-\\u001F) found while parsing a string"
  | tooDeep => "recursion limit exceeded"

/-- A cause, the text at fault, and the number of its bytes up to the fault. -/
structure Fault where
  cause : Cause
  offset : Nat
  text : String

/-- Line, from one, and byte within the line of the first `offset` bytes of a text. -/
def position (line column offset : Nat) : List Char → Nat × Nat
  | [] => (line, column)
  | c :: cs =>
    if offset = 0 then (line, column)
    else if c = '\n' then position (line + 1) 0 (offset - 1) cs
    else position line (column + Nat.min offset c.utf8Size) (offset - c.utf8Size) cs

/-- The cause with its place. -/
def Fault.message (f : Fault) : String :=
  let (line, column) := position 1 0 f.offset f.text.toList
  f.cause.message ++ " at line " ++ toString line ++ " column " ++ toString column

end Json

end QuoteKeeper
