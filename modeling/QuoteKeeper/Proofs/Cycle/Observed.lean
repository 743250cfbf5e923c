import Mathlib.Data.List.Nodup
import QuoteKeeper.Proofs.Cycle.Course

/-!
# What a transcript shows of the market

The resting orders, the valid reference prices and the books as a cycle has read them, and the
orders it has called to cancel. If no pair is listed twice, the prices that the phases work with are
those that the transcript shows.
-/

namespace QuoteKeeper

open Dialogue

namespace Transcript

def resting? : Exchange → Option (List RestingOrder)
  | ⟨.openOrders, .ok orders⟩ => some orders
  | _ => none

def price? (p : Pair) (side : Side) : Exchange → Option Decimal
  | ⟨.topOfBook q s, .ok price⟩ => if q = p ∧ s = side then some price else none
  | _ => none

def canceled? : Exchange → Option (Pair × OrderId)
  | ⟨.cancel p id, _⟩ => some (p, id)
  | _ => none

def batch? : Exchange → Option (List Candidate)
  | ⟨.budgetAdjust batch _, _⟩ => some batch
  | _ => none

/-- The book of a pair, if both of its sides have been read. -/
def bookIn (calls : List Exchange) (p : Pair) : Option BidAsk :=
  (calls.findSome? (price? p .buy)).bind fun bid =>
    (calls.findSome? (price? p .sell)).map fun ask => { bid, ask }

/-- The reference price of a pair, if it is valid. -/
def validIn (asked : List (Pair × Option BidAsk)) (p : Pair) : Option BidAsk :=
  ((asked.find? fun e => decide (e.1 = p)).bind (·.2)).filter (·.isValid)

/-- The resting orders, if they could be read. -/
def openOrders? (t : Transcript) : Option (List RestingOrder) := t.calls.findSome? resting?

def book? (t : Transcript) (p : Pair) : Option BidAsk := bookIn t.calls p

def reference? (t : Transcript) (p : Pair) : Option BidAsk := validIn t.references p

/-- The cancel calls, in order. -/
def cancels (t : Transcript) : List (Pair × OrderId) := t.calls.filterMap canceled?

/-- The batches that were checked against the budget. -/
def batches (t : Transcript) : List (List Candidate) := t.calls.filterMap batch?

theorem price?_of_kind {x : Exchange} (kind : x.1.kind ≠ .topOfBook) (p : Pair) (side : Side) :
    price? p side x = none := by
  obtain ⟨c, r⟩ := x
  cases c with
  | topOfBook q s => exact absurd rfl kind
  | openOrders | balance | cancel | place | budgetAdjust => rfl

theorem canceled?_of_kind {x : Exchange} (kind : x.1.kind ≠ .cancel) : canceled? x = none := by
  obtain ⟨c, r⟩ := x
  cases c with
  | cancel p id => exact absurd rfl kind
  | openOrders | balance | topOfBook | place | budgetAdjust => rfl

theorem cancels_eq_nil {calls : List Exchange} (others : ∀ x ∈ calls, x.1.kind ≠ .cancel) :
    calls.filterMap canceled? = [] :=
  List.filterMap_eq_nil_iff.mpr fun x member => canceled?_of_kind (others x member)

theorem mem_batches {t : Transcript} {batch : List Candidate} {allOrNone : Bool}
    {r : Except CallError (List Candidate)}
    (checked : ⟨.budgetAdjust batch allOrNone, r⟩ ∈ t.calls) : batch ∈ t.batches :=
  List.mem_filterMap.mpr ⟨_, checked, rfl⟩

theorem bookIn_append {calls others : List Exchange} {p : Pair}
    (unread : ∀ side, others.findSome? (price? p side) = none) :
    bookIn (calls ++ others) p = bookIn calls p := by
  simp [bookIn, List.findSome?_append, unread]

theorem bookIn_append_of_left {calls others : List Exchange} {p : Pair}
    (unread : ∀ side, calls.findSome? (price? p side) = none) :
    bookIn (calls ++ others) p = bookIn others p := by
  simp [bookIn, List.findSome?_append, unread]

theorem validIn_eq {asked : List (Pair × Option BidAsk)} (distinct : (asked.map (·.1)).Nodup)
    {p : Pair} {r : Option BidAsk} (member : (p, r) ∈ asked) :
    validIn asked p = r.filter (·.isValid) := by
  have found : asked.find? (fun e => decide (e.1 = p)) = some (p, r) := by
    cases looked : asked.find? fun e => decide (e.1 = p) with
    | none =>
      have missed := List.find?_eq_none.mp looked (p, r) member
      exact absurd (decide_eq_true rfl) missed
    | some e =>
      have key := List.find?_some looked
      have same := List.inj_on_of_nodup_map distinct (List.mem_of_find?_eq_some looked) member
        (of_decide_eq_true key)
      rw [same]
  rw [validIn, found]
  rfl

end Transcript

namespace Reading

open Transcript

/-- Reading a pair does not read the book of any other. -/
theorem Course.other {p q : Pair} {r : Option BidAsk} {reading : Reading} {calls : List Exchange}
    (course : Course p r reading calls) (different : p ≠ q) (side : Side) :
    calls.findSome? (price? q side) = none := by
  cases course with
  | stale | noBid => rfl
  | noAsk | whole => simp [price?, different]

theorem Courses.others {asked : List (Pair × Option BidAsk)} {readings : List (Pair × Reading)}
    {calls : List Exchange} (courses : Courses asked readings calls) {q : Pair}
    (absent : q ∉ asked.map (·.1)) (side : Side) : calls.findSome? (price? q side) = none := by
  induction courses with
  | nil => rfl
  | cons head tail ih =>
    rw [List.map_cons, List.mem_cons, not_or] at absent
    rw [List.findSome?_append, head.other (Ne.symm absent.1), ih absent.2, Option.or_none]

/-- What is found of a pair is what its calls show. -/
theorem Course.reading_eq {p : Pair} {r : Option BidAsk} {reading : Reading}
    {calls : List Exchange} (course : Course p r reading calls) :
    reading = (r.filter (·.isValid)).map fun q => { reference := q, book := bookIn calls p } := by
  cases course with
  | stale invalid =>
    cases r with
    | none => rfl
    | some q =>
      have not : q.isValid = false := invalid
      simp [Option.filter_some, not]
  | noBid valid e => simp [Option.filter_some, valid, bookIn, price?]
  | noAsk valid bid e => simp [Option.filter_some, valid, bookIn, price?]
  | whole valid bid ask => simp [Option.filter_some, valid, bookIn, price?]

theorem Courses.keys {asked : List (Pair × Option BidAsk)} {readings : List (Pair × Reading)}
    {calls : List Exchange} (courses : Courses asked readings calls) :
    readings.map (·.1) = asked.map (·.1) := by
  induction courses with
  | nil => rfl
  | cons head tail ih => rw [List.map_cons, List.map_cons, ih]

theorem Courses.mem_readings {asked : List (Pair × Option BidAsk)}
    {readings : List (Pair × Reading)} {calls : List Exchange}
    (courses : Courses asked readings calls) (distinct : (asked.map (·.1)).Nodup) {p : Pair}
    {r : Option BidAsk} (member : (p, r) ∈ asked) :
    (p, (r.filter (·.isValid)).map fun q => { reference := q, book := bookIn calls p }) ∈
      readings := by
  induction courses with
  | nil => exact nomatch member
  | @cons q s reading calls more asked readings head tail ih =>
    rw [List.map_cons, List.nodup_cons] at distinct
    rcases List.mem_cons.mp member with same | later
    · obtain ⟨rfl, rfl⟩ := Prod.mk.inj same
      rw [bookIn_append (tail.others distinct.1), ← head.reading_eq]
      exact List.mem_cons_self
    · have listed : p ∈ asked.map (·.1) := List.mem_map_of_mem later
      have different : q ≠ p := fun same => distinct.1 (same ▸ listed)
      rw [bookIn_append_of_left (head.other different)]
      exact List.mem_cons_of_mem _ (ih distinct.2 later)

end Reading

namespace Prices

theorem keys_sublist (readings : List (Pair × Reading)) :
    ((readings.filterMap fun (p, r) => r.map (p, ·)).map (·.1)).Sublist (readings.map (·.1)) := by
  induction readings with
  | nil => exact List.Sublist.refl _
  | cons e readings ih =>
    obtain ⟨p, r⟩ := e
    cases r with
    | none => exact ih.cons p
    | some v => exact ih.cons_cons p

/-- Of pairs that are read once each, the prices are those that were read. -/
theorem get?_ofReadings {readings : List (Pair × Reading)}
    (distinct : (readings.map (·.1)).Nodup) {p : Pair} {reading : Reading}
    (member : (p, reading) ∈ readings) : (ofReadings readings).get? p = reading := by
  have entries : ∀ q v, (q, v) ∈ readings.filterMap (fun (p, r) => r.map (p, ·)) ↔
      (q, some v) ∈ readings := by
    intro q v
    simp [List.mem_filterMap]
  cases reading with
  | none =>
    refine Table.get?_ofList_of_notMem fun listed => ?_
    obtain ⟨⟨q, v⟩, found, rfl⟩ := List.mem_map.mp listed
    have same := List.inj_on_of_nodup_map distinct member ((entries q v).mp found) rfl
    exact nomatch (Prod.mk.inj same).2
  | some v =>
    exact Table.get?_ofList_of_mem (distinct.sublist (keys_sublist readings))
      ((entries p v).mpr member)

/-- Of pairs that are read once each, the prices are those that the answers show. -/
theorem get?_of_courses {asked : List (Pair × Option BidAsk)} {readings : List (Pair × Reading)}
    {calls : List Exchange} (courses : Reading.Courses asked readings calls)
    (distinct : (asked.map (·.1)).Nodup) {p : Pair} (listed : p ∈ asked.map (·.1)) :
    (ofReadings readings).get? p = (Transcript.validIn asked p).map fun q =>
      { reference := q, book := Transcript.bookIn calls p } := by
  obtain ⟨⟨q, r⟩, member, rfl⟩ := List.mem_map.mp listed
  rw [Transcript.validIn_eq distinct member]
  exact get?_ofReadings (courses.keys ▸ distinct) (courses.mem_readings distinct member)

end Prices

namespace Transcript

/-- Only the calls for the resting orders and the books are looked at for prices. -/
theorem book?_eq {t : Transcript} {orders : List RestingOrder} {reads calls : List Exchange}
    (made : t.calls = ⟨.openOrders, .ok orders⟩ :: (reads ++ calls))
    (others : ∀ x ∈ calls, x.1.kind ≠ .topOfBook) (p : Pair) : t.book? p = bookIn reads p := by
  have skipped : bookIn t.calls p = bookIn (reads ++ calls) p := by
    rw [made]
    rfl
  rw [book?, skipped, bookIn_append]
  intro side
  exact List.findSome?_eq_none_iff.mpr fun x member => price?_of_kind (others x member) p side

theorem openOrders?_eq {t : Transcript} {orders : List RestingOrder} {rest : List Exchange}
    (made : t.calls = ⟨.openOrders, .ok orders⟩ :: rest) : t.openOrders? = some orders := by
  rw [openOrders?, made]
  rfl

end Transcript

end QuoteKeeper
