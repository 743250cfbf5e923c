import QuoteKeeper.Proofs.Json.Running

/-!
# Strings as the machine reads them

Between the quotes of a string the machine reads exactly the spellings of the grammar: each
constructor of `Chars` is a way through the modes and back, and there is no other way. An escape
with four hex digits takes four bytes whatever they are, so its digits are told from other
characters by their size as well.
-/

namespace QuoteKeeper

namespace Json

variable {stack : List Frame} {old : Option Value} {r : Value}
variable {isKey : Bool} {text cs s tail digits : List Char} {c : Char} {high : Option Nat} {u : Nat}

/-! ### Escapes with four digits -/

theorem hexDigit?_utf8Size (digit : (Text.hexDigit? c).isSome) : c.utf8Size = 1 := by
  have small (most : c ≤ 'f') : c.utf8Size = 1 :=
    Char.utf8Size_eq_one_iff.mpr (UInt32.le_trans most (by decide))
  rw [Text.hexDigit?] at digit
  split at digit
  next bounds => exact small bounds.2
  next =>
    split at digit
    next bounds => exact small (UInt32.le_trans bounds.2 (by decide))
    next =>
      rw [Text.digit?] at digit
      split at digit
      next isDigit =>
        simp only [Char.isDigit, Bool.and_eq_true, decide_eq_true_eq] at isDigit
        exact small (UInt32.le_trans isDigit.2 (by decide))
      next => cases digit

theorem isSome_of_mapM {α β : Type} {f : α → Option β} {l : List α} {found : List β}
    (all : l.mapM f = some found) : ∀ a ∈ l, (f a).isSome := by
  induction l generalizing found with
  | nil => simp
  | cons a l ih =>
    rw [List.mapM_cons] at all
    obtain ⟨b, first, more⟩ := Option.bind_eq_some_iff.mp all
    obtain ⟨bs, others, -⟩ := Option.bind_eq_some_iff.mp more
    intro x mem
    rcases List.mem_cons.mp mem with rfl | mem
    · rw [first]
      rfl
    · exact ih others x mem

/-- The machine after four hex digits, over the rest of the text. -/
def hexed (stack : List Frame) (old : Option Value) (isKey : Bool) (text : List Char)
    (high : Option Nat) (u : Nat) (cs : List Char) : Option Value :=
  ((Machine.mk stack old .value).endHex isKey text high u).toOption.bind fun m => m.run cs

/-- The digits that are left of four, after so many bytes and the digits in them, last first. -/
structure HexRest (bytes : Nat) (read ds : List Char) (u : Nat) : Prop where
  more : ds ≠ []
  four : bytes + ds.length = 4
  value : ((read.reverse ++ ds).mapM Text.hexDigit?).map (·.foldl (· * 16 + ·) 0) = some u

variable {bytes : Nat} {read ds : List Char}

theorem hexRest_iff : HexRest 0 [] ds u ↔ HexUnit ds u := by
  constructor
  · rintro ⟨-, four, value⟩
    exact ⟨(Nat.zero_add _).symm.trans four, value⟩
  · rintro ⟨four, value⟩
    refine ⟨fun none => ?_, (Nat.zero_add _).trans four, value⟩
    rw [none] at four
    cases four

theorem HexRest.size (hex : HexRest bytes read ds u) : ∀ c ∈ ds, c.utf8Size = 1 := by
  obtain ⟨found, all, -⟩ := Option.map_eq_some_iff.mp hex.value
  exact fun c mem => hexDigit?_utf8Size (isSome_of_mapM all c (List.mem_append_right _ mem))

theorem hexRest_cons (size : c.utf8Size = 1) (more : ds ≠ []) :
    HexRest bytes read (c :: ds) u ↔ HexRest (bytes + c.utf8Size) (c :: read) ds u := by
  constructor
  · rintro ⟨-, four, value⟩
    rw [List.length_cons] at four
    exact ⟨more, by omega, by simpa using value⟩
  · rintro ⟨-, four, value⟩
    exact ⟨List.cons_ne_nil c ds, by rw [List.length_cons]; omega, by simpa using value⟩

theorem run_hex (hex : HexRest bytes read ds u) :
    (Machine.mk stack old (.escape isKey text (.hex high bytes read))).run (ds ++ tail) =
      hexed stack old isKey text high u tail := by
  induction ds generalizing bytes read with
  | nil => exact absurd rfl hex.more
  | cons c ds ih =>
    have size := hex.size c List.mem_cons_self
    have four := hex.four
    rw [List.length_cons] at four
    by_cases last : ds = []
    · obtain ⟨found, all, sum⟩ := Option.map_eq_some_iff.mp hex.value
      rw [last] at four all ⊢
      have full : ¬ bytes + c.utf8Size < 4 := by
        rw [List.length_nil] at four
        omega
      simp only [List.cons_append, List.nil_append, Machine.run_cons, Machine.feed,
        Machine.feedEscape, Machine.feedHex, if_neg full, List.reverse_cons, all, sum]
      rfl
    · have short : bytes + c.utf8Size < 4 := by
        have more := List.length_pos_iff.mpr last
        omega
      simp only [List.cons_append, Machine.run_cons, Machine.feed, Machine.feedEscape,
        Machine.feedHex, if_pos short]
      exact ih ((hexRest_cons size last).mp hex)

/-- An escape with digits that is read through has four of them. -/
theorem run_hex_some (short : bytes < 4)
    (done : (Machine.mk stack old (.escape isKey text (.hex high bytes read))).run cs = some r) :
    ∃ ds u tail, cs = ds ++ tail ∧ HexRest bytes read ds u ∧
      hexed stack old isKey text high u tail = some r := by
  induction cs generalizing bytes read with
  | nil => cases done
  | cons c cs ih =>
    simp only [Machine.run_cons, Machine.feed, Machine.feedEscape, Machine.feedHex] at done
    split at done
    next short =>
      obtain ⟨ds, u, tail, rfl, hex, ended⟩ := ih short done
      have size : c.utf8Size = 1 := by
        obtain ⟨found, all, -⟩ := Option.map_eq_some_iff.mp hex.value
        exact hexDigit?_utf8Size (isSome_of_mapM all c (by simp))
      exact ⟨c :: ds, u, tail, rfl, (hexRest_cons size hex.more).mpr hex, ended⟩
    next full =>
      cases all : (c :: read).reverse.mapM Text.hexDigit? with
      | none =>
        rw [all] at done
        cases done
      | some found =>
        rw [all] at done
        have size := hexDigit?_utf8Size (isSome_of_mapM all c (by simp))
        refine ⟨[c], found.foldl (· * 16 + ·) 0, cs, rfl, ⟨List.cons_ne_nil c [], ?_, ?_⟩, done⟩
        · rw [List.length_singleton]
          omega
        · rw [← List.reverse_cons, all]
          rfl

/-! ### Characters -/

theorem hexed_unit (whole : ¬ (0xD800 ≤ u ∧ u ≤ 0xDFFF)) :
    hexed stack old isKey text none u tail =
      (Machine.mk stack old (.string isKey (Char.ofNat u :: text))).run tail := by
  have low : ¬ (0xDC00 ≤ u ∧ u ≤ 0xDFFF) := by omega
  have high : ¬ (0xD800 ≤ u ∧ u ≤ 0xDBFF) := by omega
  simp only [hexed, Machine.endHex, low, high, decide_false, if_false]
  rfl

theorem hexed_high (isHigh : 0xD800 ≤ u ∧ u ≤ 0xDBFF) :
    hexed stack old isKey text none u tail =
      (Machine.mk stack old (.escape isKey text (.pairBackslash u))).run tail := by
  have low : ¬ (0xDC00 ≤ u ∧ u ≤ 0xDFFF) := by omega
  simp only [hexed, Machine.endHex, low, isHigh, decide_false]
  rfl

theorem hexed_lone (isLow : 0xDC00 ≤ u ∧ u ≤ 0xDFFF) :
    hexed stack old isKey text none u tail = none := by
  simp only [hexed, Machine.endHex, isLow]
  rfl

theorem hexed_low (h : Nat) (isLow : 0xDC00 ≤ u ∧ u ≤ 0xDFFF) :
    hexed stack old isKey text (some h) u tail =
      (Machine.mk stack old (.string isKey (pairChar h u :: text))).run tail := by
  simp only [hexed, Machine.endHex, isLow]
  rfl

theorem hexed_unpaired (h : Nat) (notLow : ¬ (0xDC00 ≤ u ∧ u ≤ 0xDFFF)) :
    hexed stack old isKey text (some h) u tail = none := by
  simp only [hexed, Machine.endHex, notLow, decide_false]
  rfl

theorem run_plain (quote : c ≠ '"') (backslash : c ≠ '\\') (printed : ¬ c.toNat < 0x20) :
    (Machine.mk stack old (.string isKey text)).run (c :: tail) =
      (Machine.mk stack old (.string isKey (c :: text))).run tail := by
  simp only [Machine.run_cons, Machine.feed, Machine.feedString, if_neg quote, if_neg backslash,
    if_neg printed]
  rfl

theorem run_letter {e : Char} (escape : letterEscape? c = some e) :
    (Machine.mk stack old (.string isKey text)).run ('\\' :: c :: tail) =
      (Machine.mk stack old (.string isKey (e :: text))).run tail := by
  have letter : c ≠ 'u' := by
    rintro rfl
    cases escape
  have fed : (Machine.mk stack old (.escape isKey text .backslash)).feed c =
      .ok (Machine.mk stack old (.string isKey (e :: text))) := by
    simp only [Machine.feed, Machine.feedEscape, if_neg letter, escape]
  refine Eq.trans (b := (Machine.mk stack old (.escape isKey text .backslash)).run (c :: tail))
    rfl ?_
  rw [Machine.run_cons, fed]
  rfl

theorem run_digits (spelled : HexUnit digits u) :
    (Machine.mk stack old (.string isKey text)).run ('\\' :: 'u' :: (digits ++ tail)) =
      hexed stack old isKey text none u tail :=
  run_hex (hexRest_iff.mpr spelled)

theorem run_low (h : Nat) (spelled : HexUnit digits u) :
    (Machine.mk stack old (.escape isKey text (.pairBackslash h))).run
        ('\\' :: 'u' :: (digits ++ tail)) =
      hexed stack old isKey text (some h) u tail :=
  run_hex (hexRest_iff.mpr spelled)

/-- The spelling of characters adds them to the text. -/
theorem run_chars (chars : Chars cs s) (text : List Char) :
    (Machine.mk stack old (.string isKey text)).run (cs ++ tail) =
      (Machine.mk stack old (.string isKey (s.reverse ++ text))).run tail := by
  induction chars generalizing text with
  | nil => rfl
  | plain quote backslash printed rest ih =>
    rw [List.cons_append, run_plain quote backslash printed, ih, List.reverse_cons,
      List.append_assoc]
    rfl
  | letter escape rest ih =>
    rw [List.cons_append, List.cons_append, run_letter escape, ih, List.reverse_cons,
      List.append_assoc]
    rfl
  | unit spelled whole rest ih =>
    rw [List.cons_append, List.cons_append, List.append_assoc, run_digits spelled,
      hexed_unit whole, ih, List.reverse_cons, List.append_assoc]
    rfl
  | pair high isHigh low isLow rest ih =>
    rw [List.cons_append, List.cons_append, List.append_assoc, run_digits high,
      hexed_high isHigh, List.cons_append, List.cons_append, List.append_assoc, run_low _ low,
      hexed_low _ isLow, ih, List.reverse_cons, List.append_assoc]
    rfl

/-- After the first half of a pair only the second is read through. -/
theorem run_pair_some {h : Nat}
    (done : (Machine.mk stack old (.escape isKey text (.pairBackslash h))).run cs = some r) :
    ∃ ds l tail, cs = '\\' :: 'u' :: (ds ++ tail) ∧ HexUnit ds l ∧
      (0xDC00 ≤ l ∧ l ≤ 0xDFFF) ∧
        (Machine.mk stack old (.string isKey (pairChar h l :: text))).run tail = some r := by
  cases cs with
  | nil => cases done
  | cons c cs =>
    simp only [Machine.run_cons, Machine.feed, Machine.feedEscape] at done
    split at done
    next backslash =>
      change (Machine.mk stack old (.escape isKey text (.pairLetter h))).run cs = some r at done
      cases cs with
      | nil => cases done
      | cons d cs =>
        simp only [Machine.run_cons, Machine.feed, Machine.feedEscape] at done
        split at done
        next letter =>
          obtain ⟨ds, l, tail, rfl, hex, ended⟩ := run_hex_some (by decide) done
          by_cases isLow : 0xDC00 ≤ l ∧ l ≤ 0xDFFF
          · rw [hexed_low h isLow] at ended
            rw [backslash, letter]
            exact ⟨ds, l, tail, rfl, hexRest_iff.mp hex, isLow, ended⟩
          · rw [hexed_unpaired h isLow] at ended
            cases ended
        next => cases done
    next => cases done

/-- An escape that is read through stands for one character. -/
theorem run_escape_some
    (done : (Machine.mk stack old (.escape isKey text .backslash)).run cs = some r) :
    ∃ a e tail, cs = a ++ tail ∧ (∀ cs s, Chars cs s → Chars ('\\' :: (a ++ cs)) (e :: s)) ∧
      (Machine.mk stack old (.string isKey (e :: text))).run tail = some r := by
  cases cs with
  | nil => cases done
  | cons c cs =>
    simp only [Machine.run_cons, Machine.feed, Machine.feedEscape] at done
    split at done
    next letter =>
      obtain ⟨ds, u, tail, rfl, hex, ended⟩ := run_hex_some (by decide) done
      have unit := hexRest_iff.mp hex
      rw [letter]
      by_cases whole : 0xD800 ≤ u ∧ u ≤ 0xDFFF
      · by_cases isHigh : u ≤ 0xDBFF
        · rw [hexed_high ⟨whole.1, isHigh⟩] at ended
          obtain ⟨lows, l, tail, rfl, low, isLow, ended⟩ := run_pair_some ended
          refine ⟨'u' :: (ds ++ '\\' :: 'u' :: lows), pairChar u l, tail, by simp, ?_, ended⟩
          intro cs s rest
          simpa using Chars.pair unit ⟨whole.1, isHigh⟩ low isLow rest
        · rw [hexed_lone ⟨by omega, whole.2⟩] at ended
          cases ended
      · rw [hexed_unit whole] at ended
        refine ⟨'u' :: ds, Char.ofNat u, tail, rfl, fun cs s rest => ?_, ended⟩
        exact .unit unit whole rest
    next =>
      cases escape : letterEscape? c with
      | none =>
        rw [escape] at done
        cases done
      | some e =>
        rw [escape] at done
        exact ⟨[c], e, cs, rfl, fun cs s rest => .letter escape rest, done⟩

/-- A string that is read through spells characters up to a quote. -/
theorem run_string_some
    (done : (Machine.mk stack old (.string isKey text)).run cs = some r) :
    ∃ a s tail, cs = a ++ '"' :: tail ∧ Chars a s ∧
      (Machine.mk stack old (.string isKey (s.reverse ++ text))).run ('"' :: tail) = some r := by
  -- An escape is of any length, so the induction is on how much of the text is left.
  induction left : cs.length using Nat.strongRecOn generalizing cs text with
  | ind left ih =>
  cases cs with
  | nil => cases done
  | cons c cs =>
    by_cases quote : c = '"'
    · rw [quote] at done ⊢
      exact ⟨[], [], cs, rfl, .nil, done⟩
    · by_cases backslash : c = '\\'
      · simp only [Machine.run_cons, Machine.feed, Machine.feedString, if_neg quote,
          if_pos backslash] at done
        obtain ⟨a, e, tail, rfl, spelled, ended⟩ := run_escape_some done
        obtain ⟨more, s, tail, rfl, chars, ended⟩ :=
          ih tail.length (by simp at left; omega) ended rfl
        rw [backslash]
        refine ⟨'\\' :: (a ++ more), e :: s, tail, by simp, spelled more s chars, ?_⟩
        rwa [List.reverse_cons, List.append_assoc]
      · by_cases printed : c.toNat < 0x20
        · simp only [Machine.run_cons, Machine.feed, Machine.feedString, if_neg quote,
            if_neg backslash, if_pos printed] at done
          cases done
        · rw [run_plain quote backslash printed] at done
          obtain ⟨more, s, tail, rfl, chars, ended⟩ :=
            ih cs.length (by simp at left; omega) done rfl
          refine ⟨c :: more, c :: s, tail, rfl, .plain quote backslash printed chars, ?_⟩
          rwa [List.reverse_cons, List.append_assoc]

/-! ### The end of a string -/

/-- What an object is once a key is known. -/
def keyFrame (ms : List (String × Value)) (key : String) : Frame :=
  if ms.isEmpty && key == reservedKey then .spelled "" else .object ms key

theorem run_endKey (ms : List (String × Value)) (key : String) :
    (Machine.mk (.object ms key :: stack) old (.string true text)).run ('"' :: tail) =
      (Machine.mk (keyFrame ms (String.ofList text.reverse) :: stack) old .colon).run tail := rfl

theorem run_endString :
    (Machine.mk stack old (.string false text)).run ('"' :: tail) =
      resume stack old (.string (String.ofList text.reverse)) tail :=
  run_complete (Machine.mk stack old (.string false text)) _ 1 tail

end Json

end QuoteKeeper
