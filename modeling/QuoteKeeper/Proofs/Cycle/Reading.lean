import QuoteKeeper.Cycle.Snapshot
import QuoteKeeper.Proofs.Dialogue.Transcript

/-!
# What reading the prices asks

Each pair is asked for its reference price, in order; only a pair with a valid one is asked for its
book, the bid first and the ask only after a bid. The prices of a pair that occurs once are those
that were read for it.
-/

namespace QuoteKeeper

open Dialogue

namespace Reading

/-- What is found of a pair, given the answer for its reference, and the calls it takes. -/
inductive Course (p : Pair) : Option BidAsk → Reading → List Exchange → Prop
  | stale {r : Option BidAsk} (invalid : r.any BidAsk.isValid = false) : Course p r none []
  | noBid {q : BidAsk} (valid : q.isValid = true) (e : CallError) :
      Course p (some q) (some { reference := q, book := none }) [⟨.topOfBook p .buy, .error e⟩]
  | noAsk {q : BidAsk} (valid : q.isValid = true) (bid : Decimal) (e : CallError) :
      Course p (some q) (some { reference := q, book := none })
        [⟨.topOfBook p .buy, .ok bid⟩, ⟨.topOfBook p .sell, .error e⟩]
  | whole {q : BidAsk} (valid : q.isValid = true) (bid ask : Decimal) :
      Course p (some q) (some { reference := q, book := some { bid, ask } })
        [⟨.topOfBook p .buy, .ok bid⟩, ⟨.topOfBook p .sell, .ok ask⟩]

/-- The same of pairs one after the other. -/
inductive Courses : List (Pair × Option BidAsk) → List (Pair × Reading) → List Exchange → Prop
  | nil : Courses [] [] []
  | cons {p : Pair} {r : Option BidAsk} {reading : Reading} {calls more : List Exchange}
      {asked : List (Pair × Option BidAsk)} {readings : List (Pair × Reading)}
      (head : Course p r reading calls) (tail : Courses asked readings more) :
      Courses ((p, r) :: asked) ((p, reading) :: readings) (calls ++ more)

theorem Course.kind {p : Pair} {r : Option BidAsk} {reading : Reading} {calls : List Exchange}
    (course : Course p r reading calls) : ∀ x ∈ calls, x.1.kind = .topOfBook := by
  cases course with
  | stale => exact fun x member => nomatch member
  | noBid => exact List.forall_mem_singleton.mpr rfl
  | noAsk | whole => exact List.forall_mem_cons.mpr ⟨rfl, List.forall_mem_singleton.mpr rfl⟩

theorem Courses.kind {asked : List (Pair × Option BidAsk)} {readings : List (Pair × Reading)}
    {calls : List Exchange} (courses : Courses asked readings calls) :
    ∀ x ∈ calls, x.1.kind = .topOfBook := by
  induction courses with
  | nil => exact fun x member => nomatch member
  | cons head tail ih =>
    intro x member
    rcases List.mem_append.mp member with here | later
    · exact head.kind x here
    · exact ih x later

theorem Course.valid {p : Pair} {r : Option BidAsk} {reading : Reading} {calls : List Exchange}
    (course : Course p r reading calls) {q : PairPrices} (found : reading = some q) :
    r = some q.reference ∧ q.reference.isValid = true := by
  cases course with
  | stale => exact nomatch found
  | noBid valid | noAsk valid | whole valid =>
    obtain rfl := Option.some.inj found
    exact ⟨rfl, valid⟩

theorem Courses.valid {asked : List (Pair × Option BidAsk)} {readings : List (Pair × Reading)}
    {calls : List Exchange} (courses : Courses asked readings calls) {p : Pair} {q : PairPrices}
    (member : (p, some q) ∈ readings) :
    (p, some q.reference) ∈ asked ∧ q.reference.isValid = true := by
  induction courses with
  | nil => exact nomatch member
  | cons head tail ih =>
    rcases List.mem_cons.mp member with same | later
    · obtain ⟨rfl, found⟩ := Prod.mk.inj same
      obtain ⟨rfl, valid⟩ := head.valid found.symm
      exact ⟨List.mem_cons_self, valid⟩
    · obtain ⟨told, valid⟩ := ih later
      exact ⟨List.mem_cons_of_mem _ told, valid⟩

theorem ofReference_course {p : Pair} {q : BidAsk} (valid : q.isValid = true) {t : Transcript}
    {reading : Reading} (path : Path (ofReference p q) t reading) :
    t.references = [] ∧ Course p (some q) reading t.calls := by
  obtain ⟨first, read, rest, rfl, reads, tells⟩ := path_bind_iff.mp path
  obtain ⟨bid, afterBid, rfl, goesOn⟩ := path_call_iff.mp reads
  cases bid with
  | error e =>
    obtain ⟨rfl, rfl⟩ := path_pure_iff.mp goesOn
    obtain ⟨last, rfl, ends⟩ := path_log_iff.mp tells
    obtain ⟨rfl, rfl⟩ := path_pure_iff.mp ends
    exact ⟨rfl, .noBid valid e⟩
  | ok bid =>
    obtain ⟨ask, afterAsk, rfl, stops⟩ := path_call_iff.mp goesOn
    cases ask with
    | error e =>
      obtain ⟨rfl, rfl⟩ := path_pure_iff.mp stops
      obtain ⟨last, rfl, ends⟩ := path_log_iff.mp tells
      obtain ⟨rfl, rfl⟩ := path_pure_iff.mp ends
      exact ⟨rfl, .noAsk valid bid e⟩
    | ok ask =>
      obtain ⟨rfl, rfl⟩ := path_pure_iff.mp stops
      obtain ⟨rfl, rfl⟩ := path_pure_iff.mp tells
      exact ⟨rfl, .whole valid bid ask⟩

theorem ofPair_course {p : Pair} {t : Transcript} {reading : Reading}
    (path : Path (ofPair p) t reading) :
    ∃ r, t.references = [(p, r)] ∧ Course p r reading t.calls := by
  obtain ⟨r, rest, rfl, goesOn⟩ := path_reference_iff.mp path
  refine ⟨r, ?_⟩
  cases r with
  | none =>
    obtain ⟨last, rfl, ends⟩ := path_log_iff.mp goesOn
    obtain ⟨rfl, rfl⟩ := path_pure_iff.mp ends
    exact ⟨rfl, .stale rfl⟩
  | some q =>
    by_cases valid : q.isValid = true
    · simp only [valid, if_true] at goesOn
      obtain ⟨nothing, course⟩ := ofReference_course valid goesOn
      exact ⟨by rw [Transcript.references_reference, nothing], course⟩
    · simp only [valid] at goesOn
      obtain ⟨last, rfl, ends⟩ := path_log_iff.mp goesOn
      obtain ⟨rfl, rfl⟩ := path_pure_iff.mp ends
      exact ⟨rfl, .stale (by simpa using valid)⟩

theorem ofPairs_courses {pairs : List Pair} {t : Transcript} {readings : List (Pair × Reading)}
    (path : Path (ofPairs pairs) t readings) :
    t.references.map (·.1) = pairs ∧ Courses t.references readings t.calls := by
  induction pairs generalizing t readings with
  | nil =>
    obtain ⟨rfl, rfl⟩ := path_pure_iff.mp path
    exact ⟨rfl, .nil⟩
  | cons p pairs ih =>
    obtain ⟨first, reading, rest, rfl, head, goesOn⟩ := path_bind_iff.mp path
    obtain ⟨second, more, last, rfl, tail, ends⟩ := path_bind_iff.mp goesOn
    obtain ⟨rfl, rfl⟩ := path_pure_iff.mp ends
    obtain ⟨r, asked, course⟩ := ofPair_course head
    obtain ⟨order, others⟩ := ih tail
    rw [List.append_nil, Transcript.references_append, Transcript.calls_append, asked]
    exact ⟨by rw [List.cons_append, List.map_cons, List.nil_append, order], .cons course others⟩

end Reading

theorem Prices.mem_of_get? {readings : List (Pair × Reading)} {p : Pair} {q : PairPrices}
    (known : (ofReadings readings).get? p = some q) : (p, some q) ∈ readings := by
  obtain ⟨⟨p', r⟩, member, entry⟩ := List.mem_filterMap.mp (Table.mem_of_get?_ofList known)
  obtain ⟨v, rfl, same⟩ := Option.map_eq_some_iff.mp entry
  obtain ⟨rfl, rfl⟩ := Prod.mk.inj same
  exact member

end QuoteKeeper
