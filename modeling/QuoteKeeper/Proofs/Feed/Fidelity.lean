import QuoteKeeper.Proofs.Decimal.Shifting
import QuoteKeeper.Proofs.Feed.Booking

/-!
# Prices that are numbers

A number without exponent that is the number of a decimal is read exactly, however it is written.
With an exponent two things are asked of the spelling, and not of the number: the exponent is at
most as large as a decimal has places, and what stands before it is itself the number of a decimal.
A spelling of which this does not hold is refused or rounded before the exponent is applied, so the
body's book does not have the price that it spells.
-/

namespace QuoteKeeper

namespace Json

namespace Numeral

open Decimal (Representable natural plainChars plainValue places wordBound)

variable {n : Numeral} {e : Exponent} {d : Decimal}

/-- The number that is spelled before the exponent. -/
def base (n : Numeral) : ℚ := plainValue n.negative n.whole n.fraction

/-- How far the exponent moves the point to the right. -/
def shift (n : Numeral) : ℤ :=
  match n.exponent with
  | none => 0
  | some e => if e.negative then -(natural 0 e.digits : ℤ) else natural 0 e.digits

/-- The number that is spelled. -/
def value (n : Numeral) : ℚ := n.base * 10 ^ n.shift

/-- What the reader asks of an exponent and of the number before it. -/
def Readable (n : Numeral) : Prop :=
  ∀ e, n.exponent = some e → natural 0 e.digits ≤ places ∧ Representable n.base

theorem value_plain (none : n.exponent = none) : n.value = n.base := by
  rw [value, shift, none, zpow_zero, mul_one]

theorem value_right (some : n.exponent = some e) (positive : e.negative = false) :
    n.value = n.base * 10 ^ natural 0 e.digits := by
  rw [value, shift, some]
  simp only [positive, Bool.false_eq_true, if_false, zpow_natCast]

theorem value_left (some : n.exponent = some e) (negative : e.negative = true) :
    n.value = n.base / 10 ^ natural 0 e.digits := by
  rw [value, shift, some]
  simp only [negative, if_true, zpow_neg, zpow_natCast, div_eq_mul_inv]

/-! ### Reading a number -/

theorem mantissa_eq (n : Numeral) :
    n.mantissa = plainChars n.negative n.whole n.fraction := rfl

theorem mantissa_unmarked (n : Numeral) : ∀ c ∈ n.mantissa, Decimal.isExponentMark c = false := by
  have digit {c : Char} (digit : c.isDigit) : Decimal.isExponentMark c = false := by
    rw [Decimal.isExponentMark, Bool.or_eq_false_iff, decide_eq_false_iff_not,
      decide_eq_false_iff_not]
    constructor <;>
    · rintro rfl
      revert digit
      decide
  intro c mem
  rw [mantissa, sign, point] at mem
  rcases List.mem_append.mp mem with mem | mem
  · split at mem
    · cases List.mem_singleton.mp mem
      rfl
    · cases mem
  · rcases List.mem_append.mp mem with mem | mem
    · exact digit (n.whole_ok.2 c mem)
    · split at mem
      · cases mem
      · rcases List.mem_cons.mp mem with rfl | mem
        · rfl
        · exact digit (n.fraction_ok c mem)

theorem ofText_base (none : n.exponent = none) (representable : Representable n.base) :
    ∃ d, Decimal.ofText n.text = .ok d ∧ d.value = n.base := by
  obtain ⟨d, read, value⟩ := Decimal.readPlain_exact n.whole_ok.2 n.whole_ok.1 n.fraction_ok
    representable
  refine ⟨d, Decimal.ofText_plain ?_, value⟩
  rw [text, String.toList_ofList, chars, none]
  exact read

theorem ofText_exponent (some : n.exponent = some e) :
    Decimal.ofText n.text = (Decimal.readPlain n.mantissa >>= fun a =>
      if natural 0 e.digits < wordBound then
        if e.negative then a.shiftDown (natural 0 e.digits) else a.shiftUp (natural 0 e.digits)
      else .error .badExponent) := by
  have written : n.text.toList =
      n.mantissa ++ 'e' :: (if e.negative then '-' else '+') :: e.digits := by
    rw [text, String.toList_ofList, chars, some]
  rw [Decimal.ofText_mark (by simp [written]), written]
  exact Decimal.readScientific_eq n.mantissa_unmarked e.digits_ok.2 e.digits_ok.1 e.negative

/-- A number that can be written and is spelled readably is read. -/
theorem ofText_exact (readable : n.Readable) (representable : Representable n.value) :
    ∃ d, Decimal.ofText n.text = .ok d ∧ d.value = n.value := by
  cases exponent : n.exponent with
  | none =>
    rw [value_plain exponent] at representable ⊢
    exact ofText_base exponent representable
  | some e =>
    obtain ⟨few, before⟩ := readable e exponent
    obtain ⟨a, read, base⟩ := Decimal.readPlain_exact n.whole_ok.2 n.whole_ok.1 n.fraction_ok before
    have small : natural 0 e.digits < wordBound := few.trans_lt (by decide)
    rw [ofText_exponent exponent, mantissa_eq, read]
    simp only [bind, Except.bind, small, if_true]
    cases negative : e.negative with
    | true =>
      rw [value_left exponent negative, Numeral.base, ← base] at representable ⊢
      exact Decimal.shiftDown_exact few representable
    | false =>
      rw [value_right exponent negative, Numeral.base, ← base] at representable ⊢
      obtain ⟨d, shifted⟩ := Decimal.shiftUp_isOk few representable
      exact ⟨d, shifted, Decimal.shiftUp_value shifted⟩

/-- What is read right of a number that can be written was spelled readably. -/
theorem readable_of_ofText (read : Decimal.ofText n.text = .ok d) (value : d.value = n.value) :
    n.Readable := by
  intro e exponent
  rw [ofText_exponent exponent] at read
  cases before : Decimal.readPlain n.mantissa with
  | error fault =>
    rw [before] at read
    cases read
  | ok a =>
    rw [before] at read
    simp only [bind, Except.bind] at read
    split at read
    next small =>
      cases negative : e.negative with
      | true =>
        rw [negative, if_pos rfl] at read
        have few : natural 0 e.digits ≤ places := by
          by_contra large
          rw [Decimal.shiftDown_large (not_le.mp large)] at read
          cases read
        -- If the number fits only after the shift, its whole part has been refused before.
        rw [value_left exponent negative] at value
        refine ⟨few, (Decimal.representable_or_large n.fraction_ok ⟨d, value⟩).resolve_right ?_⟩
        intro large
        have failed := Decimal.readPlain_large n.negative n.whole_ok.2 n.whole_ok.1 large
          n.point
        cases before.symm.trans failed
      | false =>
        rw [negative, if_neg Bool.false_ne_true] at read
        have few : natural 0 e.digits ≤ places := by
          by_contra large
          rw [Decimal.shiftUp_large (not_le.mp large)] at read
          cases read
        rw [value_right exponent negative, Decimal.shiftUp_value read] at value
        exact ⟨few, a, mul_right_cancel₀ (by positivity) value⟩
    next => cases read

end Numeral

end Json

namespace Feed

open Json (Value Numeral last? collect normalMembers reservedKey)
open Decimal (Representable)

/-- The price of a number is the number exactly if it is spelled readably. -/
theorem price?_numeral {n : Numeral} (representable : Representable n.value) :
    (∃ d, price? (.number n.text) = some d ∧ d.value = n.value) ↔ n.Readable := by
  have price (d : Decimal) :
      price? (.number n.text) = some d ↔ Decimal.ofText n.text = .ok d := by
    rw [price?]
    cases Decimal.ofText n.text with
    | error e => simp [Except.toOption]
    | ok a => simp [Except.toOption]
  simp only [price]
  constructor
  · rintro ⟨d, read, value⟩
    exact Numeral.readable_of_ofText read value
  · intro readable
    exact Numeral.ofText_exact readable representable

/-! ### Whole bodies -/

variable {ms fields : List (String × Value)} {body key : String} {p : Pair} {bid ask : Numeral}

/-- One key alone reads to the pair, and its last value has two numbers. -/
structure Numeric (ms : List (String × Value)) (p : Pair) (key : String) (bid ask : Numeral) :
    Prop where
  pair : Pair.read key = .ok p
  only : ∀ other ∈ ms.map Prod.fst, Pair.read other = .ok p → other = key
  quoted : ∃ fields, last? ms key = some (.object fields) ∧
    last? fields "bid" = some (.number bid.text) ∧ last? fields "ask" = some (.number ask.text)

/-- Only this member quotes the pair, and with the prices of its numbers. -/
theorem Numeric.quotes (numeric : Numeric ms p key bid ask) (other : String) (q : BidAsk) :
    Quotes ms p other q ↔ other = key ∧ price? (.number bid.text) = some q.bid ∧
      price? (.number ask.text) = some q.ask := by
  obtain ⟨fields, last, hasBid, hasAsk⟩ := numeric.quoted
  constructor
  · rintro ⟨read, fields', bid', ask', last', hasBid', isBid, hasAsk', isAsk⟩
    have same := numeric.only other ((Json.last?_isSome ms other).mp ⟨_, last'⟩) read
    rw [same, last] at last'
    cases last'
    cases hasBid.symm.trans hasBid'
    cases hasAsk.symm.trans hasAsk'
    exact ⟨same, isBid, isAsk⟩
  · rintro ⟨rfl, isBid, isAsk⟩
    exact ⟨numeric.pair, fields, _, _, last, hasBid, isBid, hasAsk, isAsk⟩

/-! ### Bodies that are kept as one member -/

theorem normal_eq_number {v : Value} {written : String} (same : v.normal = .number written) :
    v = .number written := by
  cases v <;> first | exact same | cases same

/-- What is kept of members has the last of each key. -/
theorem last?_of_normal {kept : List (String × Value)}
    (normal : (Value.object fields).normal = .object kept) (key : String) :
    (last? fields key).map Value.normal = kept.lookup key := by
  rw [← get?_normal, normal, Value.get?]

/-- What is kept as a number is a number in the body. -/
theorem last?_number {kept : List (String × Value)} {written : String}
    (normal : (Value.object fields).normal = .object kept)
    (found : kept.lookup key = some (.number written)) :
    last? fields key = some (.number written) := by
  rw [← last?_of_normal normal, Option.map_eq_some_iff] at found
  obtain ⟨v, last, same⟩ := found
  rw [last, normal_eq_number same]

theorem numeric_of_read (unescaped : '\\' ∉ body.toList) (undollared : '$' ∉ body.toList)
    (read : Json.read body =
      .ok (.object [(key, .object [("ask", .number ask.text), ("bid", .number bid.text)])]))
    (pair : Pair.read key = .ok p) :
    ∃ ms, Json.Text body (.object ms) ∧ reservedKey ∉ (Value.object ms).keys ∧
      Numeric ms p key bid ask := by
  obtain ⟨doc, text, kept⟩ := Json.text_of_read read
  have free := Json.Text.unreserved unescaped undollared text
  have normal := kept free
  cases doc with
  | object ms =>
    refine ⟨ms, text, free, pair, fun other mem _ => ?_, ?_⟩
    · obtain ⟨v, last⟩ := (Json.last?_isSome ms other).mpr mem
      have one := last?_of_normal normal.symm other
      rw [last, Option.map_some, Json.lookup_cons] at one
      split at one
      next same => exact same
      next => cases one
    · have entry := last?_of_normal normal.symm key
      rw [Json.lookup_cons, if_pos rfl, Option.map_eq_some_iff] at entry
      obtain ⟨v, last, whole⟩ := entry
      cases v with
      | object fields => exact ⟨fields, last, last?_number whole rfl, last?_number whole rfl⟩
      | _ => cases whole
  | _ => cases normal

/-! ### The book of such a body -/

/-- If both numbers can be written, the book has exactly them if and only if both are spelled
readably. -/
theorem readPayload_numeric (text : Json.Text body (.object ms))
    (free : reservedKey ∉ (Value.object ms).keys) (numeric : Numeric ms p key bid ask)
    (bidFits : Representable bid.value) (askFits : Representable ask.value) :
    ∃ book lines, readPayload body = .ok (book, lines) ∧
      ((∃ q, book.get? p = some q ∧ q.bid.value = bid.value ∧ q.ask.value = ask.value) ↔
        bid.Readable ∧ ask.Readable) := by
  refine ⟨(bookOf _).1, (bookOf _).2, readPayload_object text free, ?_⟩
  have priced (q : BidAsk) : (bookOf (collect [] (normalMembers ms))).1.get? p = some q ↔
      price? (.number bid.text) = some q.bid ∧ price? (.number ask.text) = some q.ask := by
    rw [get?_book]
    simp only [numeric.quotes]
    constructor
    · rintro ⟨_, ⟨-, prices⟩, -⟩
      exact prices
    · intro prices
      exact ⟨key, ⟨rfl, prices⟩, fun other _ quotes => quotes.1.le⟩
  rw [← price?_numeral bidFits, ← price?_numeral askFits]
  constructor
  · rintro ⟨q, found, bidValue, askValue⟩
    obtain ⟨isBid, isAsk⟩ := (priced q).mp found
    exact ⟨⟨q.bid, isBid, bidValue⟩, q.ask, isAsk, askValue⟩
  · rintro ⟨⟨b, isBid, bidValue⟩, a, isAsk, askValue⟩
    exact ⟨⟨b, a⟩, (priced ⟨b, a⟩).mpr ⟨isBid, isAsk⟩, bidValue, askValue⟩

/-- The number `1`. -/
def one : Numeral := Numeral.ofDigit (c := '1') false rfl

theorem one_leads : one.whole.head? ≠ some '0' := by decide

/-- The number `1e-5`. -/
def small : Numeral := one.scaled ⟨true, ['5'], Json.digits_singleton rfl⟩

/-- The number `10e-29`, the least that a decimal can be above zero. -/
def finest : Numeral :=
  (one.wholeSnoc (c := '0') rfl one_leads).scaled
    (Json.Exponent.snoc (c := '9') ⟨true, ['2'], Json.digits_singleton rfl⟩ rfl)

/-- One member, with `small` as its bid. -/
def smallBody : String := "\x7b\"X-B\":\x7b\"bid\":1e-5,\"ask\":1\x7d\x7d"

/-- One member, with `finest` as its bid. -/
def finestBody : String := "\x7b\"X-B\":\x7b\"bid\":10e-29,\"ask\":1\x7d\x7d"

theorem one_representable : Representable one.value := by
  rw [Numeral.value_plain rfl]
  exact Decimal.representable_div (c := 1) (s := 0) (by decide) (by decide)

theorem small_base : Representable small.base :=
  Decimal.representable_div (c := 1) (s := 0) (by decide) (by decide)

theorem small_representable : Representable small.value := by
  have value : small.value = ((1 : ℕ) : ℚ) / 10 ^ 5 := by
    rw [Numeral.value_left rfl rfl]
    change ((1 : ℕ) : ℚ) / 10 ^ 0 / 10 ^ 5 = _
    norm_num
  rw [value]
  exact Decimal.representable_div (by decide) (by decide)

theorem finest_representable : Representable finest.value := by
  have value : finest.value = ((1 : ℕ) : ℚ) / 10 ^ 28 := by
    rw [Numeral.value_left rfl rfl]
    change ((10 : ℕ) : ℚ) / 10 ^ 0 / 10 ^ 29 = _
    norm_num
  rw [value]
  exact Decimal.representable_div (by decide) (by decide)

/-- A body with a small exponent has its prices. -/
theorem readPayload_numeric_small :
    ∃ ms, Json.Text smallBody (.object ms) ∧ reservedKey ∉ (Value.object ms).keys ∧
      Numeric ms ⟨"X", "B"⟩ "X-B" small one ∧ Representable small.value ∧
      Representable one.value ∧
      ∃ book lines, readPayload smallBody = .ok (book, lines) ∧
        ∃ q, book.get? ⟨"X", "B"⟩ = some q ∧ q.bid.value = small.value ∧
          q.ask.value = one.value := by
  have read : Json.read smallBody = .ok (.object
      [("X-B", .object [("ask", .number one.text), ("bid", .number small.text)])]) := by rfl
  obtain ⟨ms, text, free, numeric⟩ :=
    numeric_of_read (p := ⟨"X", "B"⟩) (by decide) (by decide) read (by decide +kernel)
  have bidReadable : small.Readable := fun e exponent => by
    cases exponent
    exact ⟨by decide, small_base⟩
  have askReadable : one.Readable := fun e exponent => by cases exponent
  obtain ⟨book, lines, result, exactly⟩ :=
    readPayload_numeric text free numeric small_representable one_representable
  exact ⟨ms, text, free, numeric, small_representable, one_representable, book, lines, result,
    exactly.mpr ⟨bidReadable, askReadable⟩⟩

/-- A number that can be written but whose exponent is too large is not in the book. -/
theorem readPayload_numeric_finest :
    ∃ ms, Json.Text finestBody (.object ms) ∧ reservedKey ∉ (Value.object ms).keys ∧
      Numeric ms ⟨"X", "B"⟩ "X-B" finest one ∧ Representable finest.value ∧
      Representable one.value ∧
      ∃ book lines, readPayload finestBody = .ok (book, lines) ∧ book.get? ⟨"X", "B"⟩ = none := by
  have read : Json.read finestBody = .ok (.object
      [("X-B", .object [("ask", .number one.text), ("bid", .number finest.text)])]) := by rfl
  obtain ⟨ms, text, free, numeric⟩ :=
    numeric_of_read (p := ⟨"X", "B"⟩) (by decide) (by decide) read (by decide +kernel)
  have absent : ((readPayload finestBody).toOption.bind fun r => r.1.get? ⟨"X", "B"⟩) = none := by
    decide +kernel
  have result := readPayload_object text free
  rw [result] at absent
  exact ⟨ms, text, free, numeric, finest_representable, one_representable, _, _, result, absent⟩

end Feed

end QuoteKeeper
