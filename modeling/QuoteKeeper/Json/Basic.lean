/-!
# JSON values

A number is kept as its text, so no digit is lost; the exponent, if any, is written with its sign.
An object is a list of members; reading keeps them sorted by key and keeps the last value of a
repeated key.
-/

namespace QuoteKeeper

namespace Json

inductive Value where
  | null
  | bool (b : Bool)
  | number (text : String)
  | string (text : String)
  | array (items : List Value)
  | object (members : List (String × Value))
deriving Inhabited

/-- Put a member in the order of the keys; a key that is there already gets the new value. -/
def insertMember (key : String) (value : Value) : List (String × Value) → List (String × Value)
  | [] => [(key, value)]
  | (k, v) :: rest =>
    if key < k then (key, value) :: (k, v) :: rest
    else if key = k then (key, value) :: rest
    else (k, v) :: insertMember key value rest

namespace Value

/-- The name of the kind of value, for messages. -/
def kind : Value → String
  | null => "null"
  | bool _ => "bool"
  | number _ => "number"
  | string _ => "string"
  | array _ => "array"
  | object _ => "object"

/-- The member of an object; nothing for other values. -/
def get? (key : String) : Value → Option Value
  | object members => members.lookup key
  | _ => none

def natural (n : Nat) : Value := number (toString n)

end Value

end Json

end QuoteKeeper
