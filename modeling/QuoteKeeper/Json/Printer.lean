import QuoteKeeper.Json.Basic

/-!
# Compact JSON

No blanks, members in the order of the object's list. In strings the quote, the backslash and the
characters below U+0020 are escaped, the latter by a letter where JSON has one.
-/

namespace QuoteKeeper

namespace Json

def hexDigit (n : Nat) : Char :=
  if n < 10 then Char.ofNat (n + '0'.toNat) else Char.ofNat (n - 10 + 'a'.toNat)

/-- One character inside a string. -/
def escapeChar (c : Char) : List Char :=
  if c = '"' then ['\\', '"']
  else if c = '\\' then ['\\', '\\']
  else if c.toNat = 0x08 then ['\\', 'b']
  else if c.toNat = 0x09 then ['\\', 't']
  else if c.toNat = 0x0A then ['\\', 'n']
  else if c.toNat = 0x0C then ['\\', 'f']
  else if c.toNat = 0x0D then ['\\', 'r']
  else if c.toNat < 0x20 then 
    ['\\', 'u', '0', '0', hexDigit (c.toNat / 16), hexDigit (c.toNat % 16)]
  else [c]

def quoted (s : String) : List Char := '"' :: s.toList.flatMap escapeChar ++ ['"']

mutual

def printValue : Value → List Char
  | .null => "null".toList
  | .bool true => "true".toList
  | .bool false => "false".toList
  | .number text => text.toList
  | .string text => quoted text
  | .array [] => ['[', ']']
  | .array (v :: rest) => '[' :: printValue v ++ printItems rest ++ [']']
  | .object [] => ['\x7b', '\x7d']
  | .object ((key, v) :: rest) =>
    '\x7b' :: quoted key ++ ':' :: printValue v ++ printMembers rest ++ ['\x7d']

/-- The items after the first one, each after a comma. -/
def printItems : List Value → List Char
  | [] => []
  | v :: rest => ',' :: printValue v ++ printItems rest

/-- The members after the first one, each after a comma. -/
def printMembers : List (String × Value) → List Char
  | [] => []
  | (key, v) :: rest => ',' :: quoted key ++ ':' :: printValue v ++ printMembers rest

end

/-- The compact text of a value. -/
def Value.text (v : Value) : String := String.ofList (printValue v)

end Json

end QuoteKeeper
