import Mathlib.Data.List.Induction
import QuoteKeeper.Feed.Payload
import QuoteKeeper.Proofs.Json.Members
import QuoteKeeper.Proofs.Json.Sound
import QuoteKeeper.Proofs.Text.Bytes

/-!
# The book of a body

A body is refused if it is not JSON or not an object, and for nothing else. Its book has the pairs
that some member quotes: one whose key reads to the pair and whose last value has two prices. Keys
are told apart as they are written, so of several that read to one pair the greatest that quotes it
counts, in the order of their bytes. What quotes nothing changes nothing.
-/

namespace QuoteKeeper

namespace Feed

open Json (Value InOrder last? collect normalMembers reservedKey)

variable {ms : List (String × Value)} {p : Pair} {q : BidAsk} {key : String} {v : Value}

/-- The last member with this key has two prices for the pair that the key reads to. -/
def Quotes (ms : List (String × Value)) (p : Pair) (key : String) (q : BidAsk) : Prop :=
  Pair.read key = .ok p ∧ ∃ fields bid ask, last? ms key = some (.object fields) ∧
    last? fields "bid" = some bid ∧ price? bid = some q.bid ∧
    last? fields "ask" = some ask ∧ price? ask = some q.ask

/-! ### One member -/

/-- A price stands in the value itself. -/
theorem price?_normal (v : Value) : price? v.normal = price? v := by
  cases v <;> rfl

theorem get?_normal (fields : List (String × Value)) (key : String) :
    (Value.object fields).normal.get? key = (last? fields key).map Value.normal := by
  rw [Value.normal, Value.get?, Json.lookup_collect, List.lookup_nil, Option.or_none,
    Json.last?_normalMembers]

theorem bidAsk?_eq_some (entry : Value) (q : BidAsk) :
    bidAsk? entry = some q ↔ (entry.get? "bid").bind price? = some q.bid ∧
      (entry.get? "ask").bind price? = some q.ask := by
  rw [bidAsk?]
  cases (entry.get? "bid").bind price? with
  | none => simp
  | some bid =>
    cases (entry.get? "ask").bind price? with
    | none => simp
    | some ask =>
      cases q
      simp

theorem field_eq_some (fields : List (String × Value)) (key : String) (d : Decimal) :
    ((Value.object fields).normal.get? key).bind price? = some d ↔
      ∃ v, last? fields key = some v ∧ price? v = some d := by
  rw [get?_normal]
  cases last? fields key with
  | none => simp
  | some v => simp [price?_normal]

/-- Both prices of a member as it is kept. -/
theorem bidAsk?_normal (v : Value) (q : BidAsk) :
    bidAsk? v.normal = some q ↔ ∃ fields bid ask, v = .object fields ∧
      last? fields "bid" = some bid ∧ price? bid = some q.bid ∧
      last? fields "ask" = some ask ∧ price? ask = some q.ask := by
  rw [bidAsk?_eq_some]
  cases v with
  | object fields =>
    rw [field_eq_some, field_eq_some]
    constructor
    · rintro ⟨⟨bid, hasBid, isBid⟩, ask, hasAsk, isAsk⟩
      exact ⟨fields, bid, ask, rfl, hasBid, isBid, hasAsk, isAsk⟩
    · rintro ⟨_, bid, ask, same, hasBid, isBid, hasAsk, isAsk⟩
      cases same
      exact ⟨⟨bid, hasBid, isBid⟩, ask, hasAsk, isAsk⟩
  | _ => simp [Value.normal, Value.get?]

theorem entry_eq_ok (key : String) (v : Value) (p : Pair) (q : BidAsk) :
    entry key v = .ok (p, q) ↔ Pair.read key = .ok p ∧ bidAsk? v = some q := by
  rw [entry]
  cases Pair.read key with
  | error e => simp
  | ok pair =>
    cases bidAsk? v with
    | none => simp
    | some prices => simp

/-! ### All members -/

/-- A member of a list has this pair and these prices. -/
def Entered (members : List (String × Value)) (p : Pair) (key : String) (q : BidAsk) : Prop :=
  ∃ v, (key, v) ∈ members ∧ entry key v = .ok (p, q)

theorem bookOf_snoc (members : List (String × Value)) (key : String) (v : Value) :
    (bookOf (members ++ [(key, v)])).1 =
      match entry key v with
      | .ok (pair, prices) => (bookOf members).1.set pair prices
      | .error _ => (bookOf members).1 := by
  rw [bookOf, List.foldl_append, List.foldl_cons, List.foldl_nil]
  cases found : entry key v with
  | ok e => simp only [found, bookOf]
  | error line => simp only [found, bookOf]

theorem entered_snoc (members : List (String × Value)) (key : String) (v : Value) (p : Pair)
    (k : String) (q : BidAsk) :
    Entered (members ++ [(key, v)]) p k q ↔
      Entered members p k q ∨ (k = key ∧ entry key v = .ok (p, q)) := by
  constructor
  · rintro ⟨w, mem, found⟩
    rcases List.mem_append.mp mem with mem | mem
    · exact .inl ⟨w, mem, found⟩
    · cases List.mem_singleton.mp mem
      exact .inr ⟨rfl, found⟩
  · rintro (⟨w, mem, found⟩ | ⟨rfl, found⟩)
    · exact ⟨w, List.mem_append_left _ mem, found⟩
    · exact ⟨v, List.mem_append_right _ (List.mem_singleton_self _), found⟩

/-- A pair has prices if some member has them. -/
theorem get?_bookOf_isSome (members : List (String × Value)) (p : Pair) :
    (∃ q, (bookOf members).1.get? p = some q) ↔ ∃ key q, Entered members p key q := by
  induction members using List.reverseRecOn with
  | nil =>
    constructor
    · rintro ⟨q, found⟩
      cases found
    · rintro ⟨key, q, v, mem, -⟩
      cases mem
  | append_singleton members m ih =>
    obtain ⟨key, v⟩ := m
    rw [bookOf_snoc]
    simp only [entered_snoc, exists_or, ← ih]
    cases found : entry key v with
    | error line => simp
    | ok e =>
      obtain ⟨pair, prices⟩ := e
      rw [Table.get?_set]
      by_cases same : pair = p
      · simp [same]
      · simp [same]

/-- In the order of their keys, the last member that has a pair decides its prices. -/
theorem get?_bookOf {members : List (String × Value)} (sorted : InOrder members) (p : Pair)
    (q : BidAsk) :
    (bookOf members).1.get? p = some q ↔
      ∃ key, Entered members p key q ∧ ∀ key' q', Entered members p key' q' → key' ≤ key := by
  induction members using List.reverseRecOn with
  | nil =>
    constructor
    · nofun
    · rintro ⟨key, ⟨v, mem, -⟩, -⟩
      cases mem
  | append_singleton members m ih =>
    obtain ⟨key, v⟩ := m
    obtain ⟨front, -, before⟩ := List.pairwise_append.mp sorted
    have less {k : String} {q' : BidAsk} (entered : Entered members p k q') : k < key := by
      obtain ⟨w, mem, -⟩ := entered
      exact before (k, w) mem (key, v) (List.mem_singleton_self _)
    have unchanged (other : ∀ q', entry key v ≠ .ok (p, q')) :
        (bookOf members).1.get? p = some q ↔ ∃ k, Entered (members ++ [(key, v)]) p k q ∧
          ∀ k' q', Entered (members ++ [(key, v)]) p k' q' → k' ≤ k := by
      simp only [entered_snoc, other, and_false, or_false]
      exact ih front
    rw [bookOf_snoc]
    cases found : entry key v with
    | error line => exact unchanged fun q' => by simp [found]
    | ok e =>
      obtain ⟨pair, prices⟩ := e
      rw [Table.get?_set]
      by_cases same : pair = p
      · rw [same] at found
        rw [if_pos same, Option.some.injEq]
        constructor
        · rintro rfl
          refine ⟨key, (entered_snoc ..).mpr (.inr ⟨rfl, found⟩), fun k q' entered => ?_⟩
          rcases (entered_snoc ..).mp entered with entered | ⟨here, -⟩
          · exact (less entered).le
          · exact here.le
        · rintro ⟨k, entered, most⟩
          have last := most key prices ((entered_snoc ..).mpr (.inr ⟨rfl, found⟩))
          rcases (entered_snoc ..).mp entered with entered | ⟨-, again⟩
          · exact absurd last (less entered).not_ge
          · cases found.symm.trans again
            rfl
      · rw [if_neg same]
        exact unchanged fun q' => by simp [found, same]

/-- What the members of a body that are kept enter is what the body quotes. -/
theorem entered_iff_quotes (ms : List (String × Value)) (p : Pair) (key : String) (q : BidAsk) :
    Entered (collect [] (normalMembers ms)) p key q ↔ Quotes ms p key q := by
  simp only [Entered, Json.mem_collect, Json.last?_normalMembers, Option.map_eq_some_iff,
    entry_eq_ok, Quotes]
  constructor
  · rintro ⟨w, ⟨v, last, rfl⟩, read, prices⟩
    obtain ⟨fields, bid, ask, rfl, rest⟩ := (bidAsk?_normal v q).mp prices
    exact ⟨read, fields, bid, ask, last, rest⟩
  · rintro ⟨read, fields, bid, ask, last, rest⟩
    exact ⟨_, ⟨.object fields, last, rfl⟩, read,
      (bidAsk?_normal (.object fields) q).mpr ⟨fields, bid, ask, rfl, rest⟩⟩

/-- The book of a body's members. -/
theorem get?_book (ms : List (String × Value)) (p : Pair) (q : BidAsk) :
    (bookOf (collect [] (normalMembers ms))).1.get? p = some q ↔
      ∃ key, Quotes ms p key q ∧ ∀ key' q', Quotes ms p key' q' → key' ≤ key := by
  rw [get?_bookOf (Json.collect_inOrder List.Pairwise.nil _)]
  simp only [entered_iff_quotes]

/-! ### Whole bodies -/

variable {body : String}

theorem membersOf_object (text : Json.Text body (.object ms))
    (free : reservedKey ∉ (Value.object ms).keys) :
    membersOf body = .ok (collect [] (normalMembers ms)) := by
  rw [membersOf, Json.read_of_text text free]
  rfl

theorem readPayload_object (text : Json.Text body (.object ms))
    (free : reservedKey ∉ (Value.object ms).keys) :
    readPayload body = .ok (bookOf (collect [] (normalMembers ms))) := by
  rw [readPayload, membersOf_object text free]

/-- A body is refused if it is not the text of an object, and then as a payload. -/
theorem readPayload_refused (plain : ∀ doc, Json.Text body doc → reservedKey ∉ doc.keys) :
    (∃ message, readPayload body = .error (.feedPayload message)) ↔
      (¬ ∃ doc, Json.Text body doc) ∨ ∃ doc, Json.Text body doc ∧ ∀ ms, doc ≠ .object ms := by
  constructor
  · rintro ⟨message, refused⟩
    by_cases json : ∃ doc, Json.Text body doc
    · obtain ⟨doc, text⟩ := json
      refine .inr ⟨doc, text, ?_⟩
      rintro ms rfl
      rw [readPayload_object text (plain _ text)] at refused
      cases refused
    · exact .inl json
  · intro notObject
    cases read : Json.read body with
    | error fault =>
      refine ⟨(PayloadFault.notJson fault).message, ?_⟩
      rw [readPayload, membersOf, read]
    | ok w =>
      obtain ⟨doc, text, kept⟩ := Json.text_of_read read
      obtain none | ⟨doc', text', other⟩ := notObject
      · exact absurd ⟨doc, text⟩ none
      · have same : w = doc'.normal :=
          Except.ok.inj (read.symm.trans (Json.read_of_text text' (plain doc' text')))
        refine ⟨(PayloadFault.notObject w.kind).message, ?_⟩
        rw [readPayload, membersOf, read, same]
        cases doc' with
        | object ms => exact absurd rfl (other ms)
        | _ => rfl

/-- Members that quote nothing may be left out. -/
theorem quotes_filter {bad : String → Bool}
    (idle : ∀ key, bad key → ∀ p q, ¬ Quotes ms p key q) (p : Pair) (key : String) (q : BidAsk) :
    Quotes (ms.filter fun m => !bad m.1) p key q ↔ Quotes ms p key q := by
  rw [Quotes, Json.last?_filter]
  cases isBad : bad key with
  | true =>
    refine iff_of_false ?_ (idle key isBad p q)
    rintro ⟨-, fields, bid, ask, last, -⟩
    cases last
  | false => exact Iff.rfl

/-- A member without two prices, or whose key reads to no pair, changes nothing for any pair. -/
theorem readPayload_filter
    (free : reservedKey ∉ (Value.object ms).keys) {bad : String → Bool}
    (idle : ∀ key, bad key → ∀ p q, ¬ Quotes ms p key q) {body' : String}
    (text' : Json.Text body' (.object (ms.filter fun m => !bad m.1))) :
    ∃ book' lines', readPayload body' = .ok (book', lines') ∧
      ∀ p, book'.get? p = (bookOf (collect [] (normalMembers ms))).1.get? p := by
  have free' : reservedKey ∉ (Value.object (ms.filter fun m => !bad m.1)).keys := by
    rw [Value.keys, Json.mem_keysOfMembers] at free ⊢
    rintro ⟨m, mem, inside⟩
    exact free ⟨m, List.mem_of_mem_filter mem, inside⟩
  refine ⟨(bookOf _).1, (bookOf _).2, readPayload_object text' free', fun p =>
    Option.ext fun q => ?_⟩
  rw [get?_book, get?_book]
  simp only [quotes_filter idle]

/-- Members with different keys may come in any order. -/
theorem readPayload_perm {ms' : List (String × Value)} (text : Json.Text body (.object ms))
    (free : reservedKey ∉ (Value.object ms).keys) (distinct : (ms.map Prod.fst).Nodup)
    (perm : ms.Perm ms') {body' : String} (text' : Json.Text body' (.object ms')) :
    readPayload body' = readPayload body := by
  have free' : reservedKey ∉ (Value.object ms').keys := by
    rw [Value.keys, Json.mem_keysOfMembers] at free ⊢
    rintro ⟨m, mem, inside⟩
    exact free ⟨m, perm.mem_iff.mpr mem, inside⟩
  have kept : (normalMembers ms).Perm (normalMembers ms') := by
    rw [Json.normalMembers_eq_map, Json.normalMembers_eq_map]
    exact perm.map _
  have keys : ((normalMembers ms).map Prod.fst).Nodup := by
    rw [Json.normalMembers_eq_map, List.map_map]
    exact distinct
  rw [readPayload_object text free, readPayload_object text' free', Json.collect_perm kept keys]

/-- What a body comes to. Without the reserved key it is refused exactly if it is not JSON or not an
object. Otherwise a pair has prices exactly if some member quotes it, and then those of the greatest
key that does, by its bytes; the members of keys that quote nothing may be left out; and if no key
is repeated the members may come in any order. -/
theorem readPayload_books (plain : ∀ doc, Json.Text body doc → reservedKey ∉ doc.keys) :
    ((∃ message, readPayload body = .error (.feedPayload message)) ↔
      (¬ ∃ doc, Json.Text body doc) ∨ ∃ doc, Json.Text body doc ∧ ∀ ms, doc ≠ .object ms) ∧
    ∀ ms, Json.Text body (.object ms) →
      ∃ book lines, readPayload body = .ok (book, lines) ∧
        (∀ p, (∃ q, book.get? p = some q) ↔ ∃ key q, Quotes ms p key q) ∧
        (∀ p q, book.get? p = some q ↔
          ∃ key, Quotes ms p key q ∧
            ∀ key' q', Quotes ms p key' q' → Text.bytes key' ≤ Text.bytes key) ∧
        (∀ bad : String → Bool, (∀ key, bad key → ∀ p q, ¬ Quotes ms p key q) →
          ∀ body', Json.Text body' (.object (ms.filter fun m => !bad m.1)) →
            ∃ book' lines', readPayload body' = .ok (book', lines') ∧
              ∀ p, book'.get? p = book.get? p) ∧
        ((ms.map Prod.fst).Nodup → ∀ ms', ms.Perm ms' → ∀ body', Json.Text body' (.object ms') →
          readPayload body' = .ok (book, lines)) := by
  refine ⟨readPayload_refused plain, fun ms text => ?_⟩
  have free := plain _ text
  have read := readPayload_object text free
  refine ⟨(bookOf _).1, (bookOf _).2, read, fun p => ?_, fun p q => ?_,
    fun bad idle body' text' => ?_, fun distinct ms' perm body' text' => ?_⟩
  · rw [get?_bookOf_isSome]
    simp only [entered_iff_quotes]
  · simp only [Text.bytes_le_iff]
    exact get?_book ms p q
  · exact readPayload_filter free idle text'
  · exact (readPayload_perm text free distinct perm text').trans read

/-- A body with two spellings of a pair. -/
def doubleBody : String :=
  "\x7b\"a-b\":\x7b\"bid\":1,\"ask\":2\x7d,\"A-B\":\x7b\"bid\":5,\"ask\":6\x7d\x7d"

/-- Of two keys that quote a pair the one in small letters is the greater one, and has the prices,
although the other one comes later. -/
theorem readPayload_books_double :
    (∀ doc, Json.Text doubleBody doc → reservedKey ∉ doc.keys) ∧
      ∃ ms, Json.Text doubleBody (.object ms) ∧
        Quotes ms ⟨"A", "B"⟩ "a-b" ⟨Decimal.one, Decimal.two⟩ ∧
        Quotes ms ⟨"A", "B"⟩ "A-B" ⟨{ coefficient := 5 }, { coefficient := 6 }⟩ ∧
        ∃ book lines, readPayload doubleBody = .ok (book, lines) ∧
          book.get? ⟨"A", "B"⟩ = some ⟨Decimal.one, Decimal.two⟩ ∧
          Text.bytes "A-B" ≤ Text.bytes "a-b" := by
  have plain : ∀ doc, Json.Text doubleBody doc → reservedKey ∉ doc.keys :=
    fun doc text => Json.Text.unreserved (by decide) (by decide) text
  have known : membersOf doubleBody = .ok
      [("A-B", .object [("ask", .number "6"), ("bid", .number "5")]),
        ("a-b", .object [("ask", .number "2"), ("bid", .number "1")])] := by rfl
  obtain ⟨refused, books⟩ := readPayload_books plain
  have accepted : ¬ ∃ message, readPayload doubleBody = .error (.feedPayload message) := by
    rw [readPayload, known]
    rintro ⟨message, refused⟩
    cases refused
  rw [refused, not_or, not_not] at accepted
  obtain ⟨⟨doc, text⟩, object⟩ := accepted
  obtain ⟨ms, rfl⟩ : ∃ ms, doc = .object ms := by
    by_contra other
    exact object ⟨doc, text, fun ms same => other ⟨ms, same⟩⟩
  have members := Except.ok.inj ((membersOf_object text (plain _ text)).symm.trans known)
  have small : Quotes ms ⟨"A", "B"⟩ "a-b" ⟨Decimal.one, Decimal.two⟩ := by
    rw [← entered_iff_quotes, members]
    exact ⟨_, .tail _ (.head _), by decide +kernel⟩
  have capital : Quotes ms ⟨"A", "B"⟩ "A-B" ⟨{ coefficient := 5 }, { coefficient := 6 }⟩ := by
    rw [← entered_iff_quotes, members]
    exact ⟨_, .head _, by decide +kernel⟩
  obtain ⟨book, lines, read, -, exactly, -⟩ := books ms text
  have found := (exactly _ _).mpr ⟨"a-b", small, fun key' q' quotes => by
    rw [← entered_iff_quotes, members] at quotes
    obtain ⟨v, mem, -⟩ := quotes
    rw [List.mem_cons, List.mem_singleton, Prod.mk.injEq, Prod.mk.injEq] at mem
    obtain ⟨rfl, -⟩ | ⟨rfl, -⟩ := mem
    · decide +kernel
    · decide +kernel⟩
  exact ⟨plain, ms, text, small, capital, book, lines, read, found, by decide +kernel⟩

end Feed

end QuoteKeeper
