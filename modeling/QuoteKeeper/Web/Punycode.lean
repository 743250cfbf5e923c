/-!
# Punycode

A label of a host name in ASCII only: first its ASCII characters, then the others, each told by how
many places one has to go from the one before when the code points are taken in ascending order and,
for each, the positions from left to right. The distances are written in base 36 with the lowest
digit first; a digit below a threshold ends the number, and the thresholds follow the sizes of the
distances seen so far.
-/

namespace QuoteKeeper

namespace Web

namespace Punycode

/-- A digit: the letters, then the ten figures. -/
def digit (n : Nat) : Char := Char.ofNat (if n < 26 then 0x61 + n else 0x16 + n)

def digitValue? (c : Char) : Option Nat :=
  if 'a' ≤ c ∧ c ≤ 'z' then some (c.toNat - 0x61)
  else if 'A' ≤ c ∧ c ≤ 'Z' then some (c.toNat - 0x41)
  else if c.isDigit then some (c.toNat - 0x16)
  else none

/-- Which digits end a number at place `k`, which counts in steps of 36. -/
def threshold (k bias : Nat) : Nat :=
  if k ≤ bias then 1 else if bias + 26 ≤ k then 26 else k - bias

theorem threshold_pos (k bias : Nat) : 1 ≤ threshold k bias := by
  unfold threshold
  split
  · omega
  · split <;> omega

/-- The distance made small, with 36 for each step that took. -/
def shrink (distance steps : Nat) : Nat × Nat :=
  if 455 < distance then shrink (distance / 35) (steps + 36) else (distance, steps)
termination_by distance
decreasing_by exact Nat.div_lt_self (by omega) (by omega)

/-- The bias after a distance, when `count` characters are placed. -/
def adapt (distance count : Nat) (isFirst : Bool) : Nat :=
  let halved := if isFirst then distance / 700 else distance / 2
  let (small, steps) := shrink (halved + halved / count) 0
  steps + 36 * small / (small + 38)

/-- A distance in digits, the first of them at place `k`. -/
def digits (bias k distance : Nat) : List Char :=
  let t := threshold k bias
  if distance < t then
    [digit distance]
  else
    digit (t + (distance - t) % (36 - t)) :: digits bias (k + 36) ((distance - t) / (36 - t))
termination_by distance
decreasing_by
  have positive := threshold_pos k bias
  calc (distance - threshold k bias) / (36 - threshold k bias)
      ≤ distance - threshold k bias := Nat.div_le_self _ _
    _ < distance := by omega

/-- How far the writing has come: the text, the distance since the last character placed, the bias
and the number of characters placed. -/
structure Progress where
  written : List Char
  distance : Nat
  bias : Nat
  placed : Nat

/-- Go past one character of the label while `code` is the turn. -/
def Progress.pass (basic code : Nat) (p : Progress) (c : Char) : Progress :=
  if c.toNat < code then
    { p with distance := p.distance + 1 }
  else if c.toNat = code then
    { written := p.written ++ digits p.bias 36 p.distance
      distance := 0
      bias := adapt p.distance (p.placed + 1) (p.placed = basic)
      placed := p.placed + 1 }
  else
    p

/-- Write the characters with these codes, the next turn being that of `turn`. -/
def Progress.place (label : List Char) (basic : Nat) (turn : Nat) (p : Progress) :
    List Nat → Progress
  | [] => p
  | code :: rest =>
    let p := { p with distance := p.distance + (code - turn) * (p.placed + 1) }
    let p := label.foldl (Progress.pass basic code) p
    Progress.place label basic (code + 1) { p with distance := p.distance + 1 } rest

/-- Put a code into an ascending list, once. -/
def insertCode (n : Nat) : List Nat → List Nat
  | [] => [n]
  | m :: rest =>
    if n < m then n :: m :: rest
    else if n = m then m :: rest
    else m :: insertCode n rest

/-- A label in ASCII. -/
def encode (label : List Char) : List Char :=
  let basic := label.filter fun c => decide (c.toNat < 0x80)
  let codes := (label.map Char.toNat).filter fun n => decide (0x80 ≤ n)
  let start : Progress := { written := [], distance := 0, bias := 72, placed := basic.length }
  let done := start.place label basic.length 0x80 (codes.foldr insertCode [])
  basic ++ (if basic.isEmpty then [] else ['-']) ++ done.written

/-- A distance read from digits, the first at place `k` and worth `weight`, and what comes after. -/
def distance? (bias : Nat) : List Char → Nat → Nat → Nat → Option (Nat × List Char)
  | [], _, _, _ => none
  | c :: rest, k, weight, sum =>
    match digitValue? c with
    | none => none
    | some d =>
      if d < threshold k bias then
        some (sum + d * weight, rest)
      else
        distance? bias rest (k + 36) (weight * (36 - threshold k bias)) (sum + d * weight)

/-- A distance takes at least one digit. -/
theorem distance?_length (bias : Nat) : ∀ (cs : List Char) (k weight sum : Nat)
    (r : Nat × List Char), distance? bias cs k weight sum = some r → r.2.length < cs.length
  | [], _, _, _, _, h => by simp [distance?] at h
  | c :: rest, k, weight, sum, r, h => by
    rw [distance?] at h
    split at h
    · simp at h
    · split at h
      · rw [← Option.some.inj h]
        simp
      · have shorter := distance?_length bias rest (k + 36) _ _ r h
        simp only [List.length_cons]
        omega

/-- Put the characters that the digits tell of into `label`. -/
def insertFrom (bias code position : Nat) (label : List Char) (cs : List Char) :
    Option (List Char) :=
  match cs with
  | [] => some label
  | c :: rest =>
    match h : distance? bias (c :: rest) 36 1 position with
    | none => none
    | some (reached, left) =>
      let count := label.length + 1
      let code' := code + reached / count
      let position' := reached % count
      if code'.isValidChar then
        insertFrom (adapt (reached - position) count (position = 0)) code' (position' + 1)
          (label.insertIdx position' (Char.ofNat code')) left
      else
        none
termination_by cs.length
decreasing_by
  have shorter := distance?_length bias (c :: rest) 36 1 position (reached, left) h
  simpa using shorter

/-- The label that some ASCII stands for. -/
def decode (cs : List Char) : Option (List Char) :=
  match cs.reverse.span (· ≠ '-') with
  | (tail, []) => insertFrom 72 0x80 0 [] tail.reverse
  | (tail, _ :: basic) => insertFrom 72 0x80 0 basic.reverse tail.reverse

end Punycode

end Web

end QuoteKeeper
