import QuoteKeeper.Json.Number

/-!
# Reading JSON

A machine with a stack, fed one character at a time, so that reading is a fold over the text. The
grammar is strict: no comments, no trailing commas, no text after the value, at most 127 values open
at a time. An object whose first key is the reserved one stands for the number that its only member
spells. An error is placed by the number of bytes up to and including the byte at fault.
-/

namespace QuoteKeeper

namespace Json

/-- A value that is still open: an array with its items so far, last first; an object with its
members so far and the key whose value comes next; an object under the reserved key, with its number
once that is known. -/
inductive Frame where
  | array (items : List Value)
  | object (members : List (String × Value)) (key : String)
  | spelled (number : String)

/-- As the first key of an object, it makes the object stand for a number. -/
def reservedKey : String := "$serde_json::private::Number"

/-- How far the reading of an escape has come: after the backslash, within four hex digits (the
bytes and digits so far), and between the two halves of a surrogate pair. -/
inductive EscapeStage where
  | backslash
  | hex (high : Option Nat) (bytes : Nat) (digits : List Char)
  | pairBackslash (high : Nat)
  | pairLetter (high : Nat)

/-- What the machine waits for. Texts read so far are kept last character first. -/
inductive Mode where
  | value
  | firstItem
  | nextItem
  | firstKey
  | nextKey
  | colon
  | after
  | literal (rest : List Char) (value : Value)
  | number (stage : NumberStage) (text : List Char)
  | string (isKey : Bool) (text : List Char)
  | escape (isKey : Bool) (text : List Char) (stage : EscapeStage)

/-- The values still open, innermost first; once none is open, the value read; and the mode. -/
structure Machine where
  stack : List Frame
  result : Option Value
  mode : Mode

/-- A fault at the given byte, from one, of the character just read, or within the text that spells
a number. -/
inductive Stop where
  | here (cause : Cause) (byte : Nat)
  | spelling (fault : Fault)

/-- A fault at the character just read, which is a single byte or is at fault as a whole. -/
abbrev Stop.now (cause : Cause) : Stop := .here cause 1

def isSpace (c : Char) : Bool := c = ' ' || c = '\t' || c = '\n' || c = '\r'

/-- At most this many values are open at a time. -/
def depthLimit : Nat := 127

/-- A value is known, the last of it in the given byte of the character just read: none if that
character comes after it. What comes next is an end of some kind. -/
def Machine.complete (m : Machine) (v : Value) (byte : Nat) : Except Stop Machine :=
  match m.stack with
  | [] => .ok { m with result := some v, mode := .after }
  | .array items :: rest => .ok { m with stack := .array (v :: items) :: rest, mode := .after }
  | .object members key :: rest =>
    .ok { m with stack := .object (insertMember key v members) "" :: rest, mode := .after }
  | .spelled _ :: rest =>
    match v with
    | .string s =>
      match readNumber s with
      | .ok number => .ok { m with stack := .spelled number :: rest, mode := .after }
      | .error fault => .error (.spelling fault)
    | _ => .error (.here (.notNumeral v) byte)

/-- Close the innermost open value. -/
def Machine.close (m : Machine) : Except Stop Machine :=
  match m.stack with
  | [] => .ok m
  | .array items :: rest => { m with stack := rest }.complete (.array items.reverse) 1
  | .object members _ :: rest => { m with stack := rest }.complete (.object members) 1
  | .spelled number :: rest => { m with stack := rest }.complete (.number number) 1

/-- Open an array or an object: `empty` is what it would be without content. -/
def Machine.push (m : Machine) (frame : Frame) (empty : Value) (mode : Mode) :
    Except Stop Machine :=
  match m.stack with
  | .spelled _ :: _ => .error (.here (.notNumeral empty) 0)
  | _ =>
    if m.stack.length < depthLimit then
      .ok { m with stack := frame :: m.stack, mode }
    else
      .error (.now .tooDeep)

/-- The first character of a value. -/
def Machine.startValue (m : Machine) (c : Char) : Except Stop Machine :=
  if isSpace c then .ok m
  else if c = 'n' then .ok { m with mode := .literal "ull".toList .null }
  else if c = 't' then .ok { m with mode := .literal "rue".toList (.bool true) }
  else if c = 'f' then .ok { m with mode := .literal "alse".toList (.bool false) }
  else if c = '"' then .ok { m with mode := .string false [] }
  else if c = '[' then m.push (.array []) (.array []) .firstItem
  else if c = '\x7b' then m.push (.object [] "") (.object []) .firstKey
  else match NumberStage.start.next [] c with
    | some (stage, text) => .ok { m with mode := .number stage text }
    | none => .error (.now .expectedValue)

/-- After a value: a comma or the end of the container. -/
def Machine.afterValue (m : Machine) (c : Char) : Except Stop Machine :=
  if isSpace c then .ok { m with mode := .after }
  else match m.stack with
    | [] => .error (.now .trailingCharacters)
    | .array _ :: _ =>
      if c = ',' then .ok { m with mode := .nextItem }
      else if c = ']' then m.close
      else .error (.now .expectedItemEnd)
    | .object _ _ :: _ =>
      if c = ',' then .ok { m with mode := .nextKey }
      else if c = '\x7d' then m.close
      else .error (.now .expectedMemberEnd)
    | .spelled _ :: _ =>
      if c = ',' then .error (.now .trailingComma)
      else if c = '\x7d' then m.close
      else .error (.now .trailingCharacters)

/-- One character of a number, or the one after it. -/
def Machine.feedNumber (m : Machine) (stage : NumberStage) (text : List Char) (c : Char) :
    Except Stop Machine :=
  match stage.next text c with
  | some (stage, text) => .ok { m with mode := .number stage text }
  | none =>
    if stage.isComplete && !(stage == .zero && c.isDigit) then do
      (← m.complete (.number (numberText text)) 0).afterValue c
    else
      .error (.now .invalidNumber)

/-- The text of a key or string is complete. -/
def Machine.endString (m : Machine) (isKey : Bool) (text : List Char) : Except Stop Machine :=
  let s := String.ofList text.reverse
  if isKey then
    match m.stack with
    | .object members _ :: rest =>
      let frame := if members.isEmpty && s == reservedKey then .spelled "" else .object members s
      .ok { m with stack := frame :: rest, mode := .colon }
    | _ => .ok m
  else
    m.complete (.string s) 1

def Machine.feedString (m : Machine) (isKey : Bool) (text : List Char) (c : Char) :
    Except Stop Machine :=
  if c = '"' then m.endString isKey text
  else if c = '\\' then .ok { m with mode := .escape isKey text .backslash }
  else if c.toNat < 0x20 then .error (.now .controlCharacter)
  else .ok { m with mode := .string isKey (c :: text) }

/-- The character that a letter after the backslash stands for. -/
def letterEscape? (c : Char) : Option Char :=
  if c = '"' || c = '\\' || c = '/' then some c
  else if c = 'b' then some (Char.ofNat 0x08)
  else if c = 'f' then some (Char.ofNat 0x0C)
  else if c = 'n' then some '\n'
  else if c = 'r' then some '\r'
  else if c = 't' then some '\t'
  else none

/-- Four hex digits have been read, the last one just now: a character, or one half of a pair. -/
def Machine.endHex (m : Machine) (isKey : Bool) (text : List Char) (high : Option Nat)
    (unit : Nat) : Except Stop Machine :=
  let low := decide (0xDC00 ≤ unit ∧ unit ≤ 0xDFFF)
  match high with
  | some h =>
    if low then
      let c := Char.ofNat (0x10000 + (h - 0xD800) * 0x400 + (unit - 0xDC00))
      .ok { m with mode := .string isKey (c :: text) }
    else
      .error (.now .loneSurrogate)
  | none =>
    if low then .error (.now .loneSurrogate)
    else if 0xD800 ≤ unit ∧ unit ≤ 0xDBFF then
      .ok { m with mode := .escape isKey text (.pairBackslash unit) }
    else
      .ok { m with mode := .string isKey (Char.ofNat unit :: text) }

/-- The four bytes after the letter `u` are taken together, whatever they are; only then is each
looked at. -/
def Machine.feedHex (m : Machine) (isKey : Bool) (text : List Char) (high : Option Nat)
    (bytes : Nat) (digits : List Char) (c : Char) : Except Stop Machine :=
  let total := bytes + c.utf8Size
  if total < 4 then
    .ok { m with mode := .escape isKey text (.hex high total (c :: digits)) }
  else
    match (c :: digits).reverse.mapM Text.hexDigit? with
    | some ns => m.endHex isKey text high (ns.foldl (· * 16 + ·) 0)
    | none => .error (.here .invalidEscape (4 - bytes))

def Machine.feedEscape (m : Machine) (isKey : Bool) (text : List Char) (c : Char) :
    EscapeStage → Except Stop Machine
  | .backslash =>
    if c = 'u' then
      .ok { m with mode := .escape isKey text (.hex none 0 []) }
    else
      match letterEscape? c with
      | some e => .ok { m with mode := .string isKey (e :: text) }
      | none => .error (.now .invalidEscape)
  | .hex high bytes digits => m.feedHex isKey text high bytes digits c
  | .pairBackslash high =>
    if c = '\\' then .ok { m with mode := .escape isKey text (.pairLetter high) }
    else .error (.now .unexpectedEscapeEnd)
  | .pairLetter high =>
    if c = 'u' then .ok { m with mode := .escape isKey text (.hex (some high) 0 []) }
    else .error (.now .unexpectedEscapeEnd)

/-- One character. -/
def Machine.feed (m : Machine) (c : Char) : Except Stop Machine :=
  match m.mode with
  | .value => m.startValue c
  | .firstItem => if c = ']' then m.close else m.startValue c
  | .nextItem =>
    if c = ']' then .error (.now .trailingComma) else m.startValue c
  | .firstKey =>
    if isSpace c then .ok m
    else if c = '\x7d' then m.close
    else if c = '"' then .ok { m with mode := .string true [] }
    else .error (.now .keyNotString)
  | .nextKey =>
    if isSpace c then .ok m
    else if c = '\x7d' then .error (.now .trailingComma)
    else if c = '"' then .ok { m with mode := .string true [] }
    else .error (.now .keyNotString)
  | .colon =>
    if isSpace c then .ok m
    else if c = ':' then .ok { m with mode := .value }
    else .error (.now .expectedColon)
  | .after => m.afterValue c
  | .literal [] _ => .error (.now .expectedIdent)
  | .literal (e :: rest) v =>
    if c ≠ e then .error (.now .expectedIdent)
    else if rest.isEmpty then m.complete v 1
    else .ok { m with mode := .literal rest v }
  | .number stage text => m.feedNumber stage text c
  | .string isKey text => m.feedString isKey text c
  | .escape isKey text stage => m.feedEscape isKey text c stage

/-- What is missing if the text ends between values. -/
def Machine.endCause (m : Machine) : Cause :=
  match m.stack with
  | [] => .endInValue
  | .array _ :: _ => .endInList
  | .object _ _ :: _ | .spelled _ :: _ => .endInObject

/-- The text ends. -/
def Machine.finish (m : Machine) : Except Stop Value :=
  match m.mode with
  | .value | .nextItem | .nextKey | .literal _ _ => .error (.here .endInValue 0)
  | .firstItem => .error (.here .endInList 0)
  | .firstKey | .colon => .error (.here .endInObject 0)
  | .string _ _ | .escape _ _ _ => .error (.here .endInString 0)
  | .after => finished m
  | .number stage text =>
    if stage.isComplete then do
      finished (← m.complete (.number (numberText text)) 0)
    else
      .error (.here .endInValue 0)
where
  finished (m : Machine) : Except Stop Value :=
    match m.stack, m.result with
    | [], some v => .ok v
    | _, _ => .error (.here m.endCause 0)

def Machine.start : Machine := { stack := [], result := none, mode := .value }

/-- The fault in a whole text, of which `offset` bytes were read before the character at hand. -/
def Stop.fault (text : String) (offset : Nat) : Stop → Fault
  | .here cause byte => { cause, offset := offset + byte, text }
  | .spelling fault => fault

/-- Feed the rest of a text, of which `offset` bytes have been read. -/
def readFrom (text : String) (m : Machine) (offset : Nat) : List Char → Except Fault Value
  | [] => m.finish.mapError (Stop.fault text offset)
  | c :: cs =>
    match m.feed c with
    | .ok m => readFrom text m (offset + c.utf8Size) cs
    | .error stop => .error (stop.fault text offset)

def read (s : String) : Except Fault Value := readFrom s Machine.start 0 s.toList

end Json

end QuoteKeeper
