import QuoteKeeper.Json.Reader

/-!
# The grammar of JSON

What it is for a text to be JSON, said without a machine that reads it: how numbers and strings are
spelled, and how values, items and members are put together with space around them. The value of a
text has its members as they stand there, repeated keys included; `Value.normal` is what is kept of
it. Two bounds are part of the grammar: no more than a given number of values are open at a time,
and one half of a surrogate pair stands only beside the other.
-/

namespace QuoteKeeper

namespace Json

/-- Space between the parts of a text, possibly none. -/
def Blank (cs : List Char) : Prop := ∀ c ∈ cs, isSpace c

/-! ### Numbers -/

/-- One digit or more. -/
def AreDigits (cs : List Char) : Prop := cs ≠ [] ∧ ∀ c ∈ cs, c.isDigit

structure Exponent where
  negative : Bool
  digits : List Char
  digits_ok : AreDigits digits

/-- What stands before the digits of an exponent. -/
def Exponent.Signed (e : Exponent) (sign : List Char) : Prop :=
  if e.negative then sign = ['-'] else sign = [] ∨ sign = ['+']

/-- A number as it is written: no zero leads its whole part unless it is all of it. -/
structure Numeral where
  negative : Bool
  whole : List Char
  /-- Without a point there are no digits after it. -/
  fraction : List Char
  exponent : Option Exponent
  whole_ok : AreDigits whole
  whole_head : whole.head? = some '0' → whole = ['0']
  fraction_ok : ∀ c ∈ fraction, c.isDigit

namespace Numeral

def sign (n : Numeral) : List Char := if n.negative then ['-'] else []

def point (n : Numeral) : List Char := if n.fraction = [] then [] else '.' :: n.fraction

/-- All that stands before the exponent. -/
def mantissa (n : Numeral) : List Char := n.sign ++ (n.whole ++ n.point)

/-- The spelling that is kept: a small `e`, and a sign after it. -/
def chars (n : Numeral) : List Char :=
  match n.exponent with
  | none => n.mantissa
  | some e => n.mantissa ++ 'e' :: (if e.negative then '-' else '+') :: e.digits

def text (n : Numeral) : String := String.ofList n.chars

/-- The ways to write a number: either case of the exponent's mark, and no need to say plus. -/
inductive Spelled (n : Numeral) : List Char → Prop where
  | plain (none : n.exponent = none) : Spelled n n.mantissa
  | scientific {e : Exponent} (some : n.exponent = some e) {mark : Char}
      (marked : mark = 'e' ∨ mark = 'E') {sign : List Char} (signed : e.Signed sign) :
      Spelled n (n.mantissa ++ mark :: (sign ++ e.digits))

end Numeral

/-! ### Strings -/

/-- Four hex digits and the number that they spell. -/
def HexUnit (digits : List Char) (unit : Nat) : Prop :=
  digits.length = 4 ∧ (digits.mapM Text.hexDigit?).map (·.foldl (· * 16 + ·) 0) = some unit

/-- The character of a surrogate pair. -/
def pairChar (high low : Nat) : Char :=
  Char.ofNat (0x10000 + (high - 0xD800) * 0x400 + (low - 0xDC00))

/-- What stands between the quotes of a string, and the characters that it spells. -/
inductive Chars : List Char → List Char → Prop where
  | nil : Chars [] []
  | plain {c : Char} {cs s : List Char} (quote : c ≠ '"') (backslash : c ≠ '\\')
      (printed : ¬ c.toNat < 0x20) (rest : Chars cs s) : Chars (c :: cs) (c :: s)
  | letter {c e : Char} {cs s : List Char} (escape : letterEscape? c = some e)
      (rest : Chars cs s) : Chars ('\\' :: c :: cs) (e :: s)
  | unit {digits cs s : List Char} {u : Nat} (spelled : HexUnit digits u)
      (whole : ¬ (0xD800 ≤ u ∧ u ≤ 0xDFFF)) (rest : Chars cs s) :
      Chars ('\\' :: 'u' :: (digits ++ cs)) (Char.ofNat u :: s)
  | pair {highs lows cs s : List Char} {h l : Nat} (high : HexUnit highs h)
      (isHigh : 0xD800 ≤ h ∧ h ≤ 0xDBFF) (low : HexUnit lows l)
      (isLow : 0xDC00 ≤ l ∧ l ≤ 0xDFFF) (rest : Chars cs s) :
      Chars ('\\' :: 'u' :: (highs ++ '\\' :: 'u' :: (lows ++ cs))) (pairChar h l :: s)

/-! ### Values -/

/-- What a piece of a text can be: a value, a value with the space around it, the items of an array,
a member, or the members of an object. -/
inductive Part where
  | value (v : Value)
  | spaced (v : Value)
  | items (vs : List Value)
  | member (key : String) (v : Value)
  | members (ms : List (String × Value))

/-- The text spells the part, with at most so many values open within it. -/
inductive Spells : Nat → List Char → Part → Prop where
  | nullWord {n : Nat} : Spells n "null".toList (.value .null)
  | trueWord {n : Nat} : Spells n "true".toList (.value (.bool true))
  | falseWord {n : Nat} : Spells n "false".toList (.value (.bool false))
  | number {n : Nat} {cs : List Char} {numeral : Numeral} (spelled : numeral.Spelled cs) :
      Spells n cs (.value (.number numeral.text))
  | string {n : Nat} {cs s : List Char} (chars : Chars cs s) :
      Spells n ('"' :: (cs ++ ['"'])) (.value (.string (String.ofList s)))
  | emptyArray {n : Nat} {cs : List Char} (blank : Blank cs) :
      Spells (n + 1) ('[' :: (cs ++ [']'])) (.value (.array []))
  | array {n : Nat} {cs : List Char} {vs : List Value} (items : Spells n cs (.items vs)) :
      Spells (n + 1) ('[' :: (cs ++ [']'])) (.value (.array vs))
  | emptyObject {n : Nat} {cs : List Char} (blank : Blank cs) :
      Spells (n + 1) ('\x7b' :: (cs ++ ['\x7d'])) (.value (.object []))
  | object {n : Nat} {cs : List Char} {ms : List (String × Value)}
      (members : Spells n cs (.members ms)) :
      Spells (n + 1) ('\x7b' :: (cs ++ ['\x7d'])) (.value (.object ms))
  | spaced {n : Nat} {pre cs post : List Char} {v : Value} (before : Blank pre)
      (value : Spells n cs (.value v)) (after : Blank post) :
      Spells n (pre ++ (cs ++ post)) (.spaced v)
  | lastItem {n : Nat} {cs : List Char} {v : Value} (item : Spells n cs (.spaced v)) :
      Spells n cs (.items [v])
  | nextItem {n : Nat} {cs rest : List Char} {v : Value} {vs : List Value}
      (item : Spells n cs (.spaced v)) (items : Spells n rest (.items vs)) :
      Spells n (cs ++ ',' :: rest) (.items (v :: vs))
  | member {n : Nat} {pre key mid cs s : List Char} {v : Value} (before : Blank pre)
      (chars : Chars key s) (between : Blank mid) (value : Spells n cs (.spaced v)) :
      Spells n (pre ++ '"' :: (key ++ '"' :: (mid ++ ':' :: cs))) (.member (String.ofList s) v)
  | lastMember {n : Nat} {cs : List Char} {key : String} {v : Value}
      (member : Spells n cs (.member key v)) : Spells n cs (.members [(key, v)])
  | nextMember {n : Nat} {cs rest : List Char} {key : String} {v : Value}
      {ms : List (String × Value)} (member : Spells n cs (.member key v))
      (members : Spells n rest (.members ms)) :
      Spells n (cs ++ ',' :: rest) (.members ((key, v) :: ms))

/-- The text is JSON and says this value. -/
def Text (s : String) (v : Value) : Prop := Spells depthLimit s.toList (.spaced v)

/-! ### What is kept of a value -/

/-- The members put in one after the other. -/
def collect (kept ms : List (String × Value)) : List (String × Value) :=
  ms.foldl (fun kept m => insertMember m.1 m.2 kept) kept

@[simp] theorem collect_cons (kept ms : List (String × Value)) (m : String × Value) :
    collect kept (m :: ms) = collect (insertMember m.1 m.2 kept) ms := rfl

mutual

/-- Every object has its members in the order of their keys, each key once with its last value. -/
def Value.normal : Value → Value
  | .array items => .array (normalItems items)
  | .object members => .object (collect [] (normalMembers members))
  | .null => .null
  | .bool b => .bool b
  | .number text => .number text
  | .string text => .string text

def normalItems : List Value → List Value
  | [] => []
  | v :: vs => v.normal :: normalItems vs

def normalMembers : List (String × Value) → List (String × Value)
  | [] => []
  | (key, v) :: ms => (key, v.normal) :: normalMembers ms

end

mutual

/-- The keys of all the objects in a value. -/
def Value.keys : Value → List String
  | .array items => keysOfItems items
  | .object members => keysOfMembers members
  | _ => []

def keysOfItems : List Value → List String
  | [] => []
  | v :: vs => v.keys ++ keysOfItems vs

def keysOfMembers : List (String × Value) → List String
  | [] => []
  | (key, v) :: ms => key :: v.keys ++ keysOfMembers ms

end

/-- The keys of the objects in a part of a text. -/
def Part.keys : Part → List String
  | value v => v.keys
  | spaced v => v.keys
  | items vs => keysOfItems vs
  | member key v => key :: v.keys
  | members ms => keysOfMembers ms

/-! ### Keys stand in the text -/

/-- Without a backslash the characters are those that are written. -/
theorem Chars.eq_of_unescaped {cs s : List Char} (chars : Chars cs s) (unescaped : '\\' ∉ cs) :
    s = cs := by
  induction chars with
  | nil => rfl
  | plain quote backslash printed rest ih =>
    rw [ih (List.not_mem_of_not_mem_cons unescaped)]
  | letter | unit | pair => exact absurd List.mem_cons_self unescaped

/-- In a text without a backslash every key is written as it is. -/
theorem Spells.key_subset {n : Nat} {cs : List Char} {part : Part} (spells : Spells n cs part)
    (unescaped : '\\' ∉ cs) {key : String} (mem : key ∈ part.keys) : key.toList ⊆ cs := by
  induction spells with
  | nullWord | trueWord | falseWord | number | string | emptyArray | emptyObject =>
    simp [Part.keys, Value.keys, keysOfItems, keysOfMembers] at mem
  | array _ ih | object _ ih =>
    have inside := fun inner => unescaped (List.mem_cons_of_mem _ (List.mem_append_left _ inner))
    exact fun c written => List.mem_cons_of_mem _ (List.mem_append_left _ (ih inside mem written))
  | spaced _ _ _ ih =>
    have inside := fun inner => unescaped (List.mem_append_right _ (List.mem_append_left _ inner))
    exact fun c written => List.mem_append_right _ (List.mem_append_left _ (ih inside mem written))
  | lastItem _ ih => exact ih unescaped (by simpa [Part.keys, keysOfItems] using mem)
  | lastMember _ ih => exact ih unescaped (by simpa [Part.keys, keysOfMembers] using mem)
  | nextItem _ _ ihFirst ihRest | nextMember _ _ ihFirst ihRest =>
    rw [List.mem_append, List.mem_cons, not_or, not_or] at unescaped
    obtain ⟨first, -, rest⟩ := unescaped
    intro c written
    rcases List.mem_append.mp mem with mem | mem
    · exact List.mem_append_left _ (ihFirst first mem written)
    · exact List.mem_append_right _ (List.mem_cons_of_mem _ (ihRest rest mem written))
  | member before chars between value ih =>
    simp only [List.mem_cons, List.mem_append, not_or] at unescaped
    obtain ⟨-, -, inKey, -, -, -, inValue⟩ := unescaped
    intro c written
    rcases List.mem_cons.mp mem with rfl | mem
    · rw [chars.eq_of_unescaped inKey, String.toList_ofList] at written
      simp [written]
    · simp [ih inValue mem written]

/-- A text without a backslash and a dollar sign does not have the reserved key. -/
theorem Text.unreserved {s : String} (unescaped : '\\' ∉ s.toList) (free : '$' ∉ s.toList)
    {v : Value} (text : Text s v) : reservedKey ∉ v.keys := fun mem =>
  free (Spells.key_subset text unescaped mem (by decide))

end Json

end QuoteKeeper
