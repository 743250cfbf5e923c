import QuoteKeeper.Proofs.Decimal.Value
import QuoteKeeper.Proofs.Venue.Serving

/-!
# A venue left alone

Between its calls nothing happens to the venue, and every call is answered by the venue itself. Then
only placing and canceling change anything, and these change the orders and nothing that prices or
payments depend on. Calls for orders, books and cancels are always answered.
-/

namespace QuoteKeeper

open Decimal

/-- The calls are for orders, books and balances only. -/
def Looks (calls : List Exchange) : Prop :=
  ∀ x ∈ calls, x.1.kind ∈ [.openOrders, .topOfBook, .balance]

theorem looks_of_kind {calls : List Exchange} {kind : CallKind}
    (all : ∀ x ∈ calls, x.1.kind = kind) (look : kind ∈ [.openOrders, .topOfBook, .balance]) :
    Looks calls := by
  intro x member
  rw [all x member]
  exact look

theorem Looks.others {calls : List Exchange} (looks : Looks calls) {kind : CallKind}
    (other : kind ∉ [.openOrders, .topOfBook, .balance]) : ∀ x ∈ calls, x.1.kind ≠ kind :=
  fun x member same => other (same ▸ looks x member)

namespace Paper

/-- The venue from one state to another with the calls that it answers, and nothing else. -/
inductive Answers : Paper → List Exchange → Paper → Prop
  | nil (v : Paper) : Answers v [] v
  | cons {v w : Paper} {c : Call} {answered : Answered c.Answer} {calls : List Exchange}
      (answer : v.answer c = .ok answered) (later : Answers answered.venue calls w) :
      Answers v (⟨c, answered.reply⟩ :: calls) w

/-- The two have the same money and the same books, and the same calls fail. -/
structure SameMarket (v w : Paper) : Prop where
  balances : w.balances = v.balances
  books : w.books = v.books
  failing : w.failing = v.failing

theorem SameMarket.refl (v : Paper) : SameMarket v v := ⟨rfl, rfl, rfl⟩

theorem SameMarket.trans {u v w : Paper} (first : SameMarket u v) (second : SameMarket v w) :
    SameMarket u w :=
  ⟨second.balances.trans first.balances, second.books.trans first.books,
    second.failing.trans first.failing⟩

/-! ### Answers -/

/-- An order is taken only if price and amount are above zero and it can be afforded. -/
theorem place_taken {v : Paper} {c : Candidate} {answered : Answered OrderId} {id : OrderId}
    (answer : v.place c = .ok answered) (taken : answered.reply = .ok id) :
    0 < c.price.value ∧ 0 < c.amount.value ∧ (∃ currency needed free,
      requirement c = .ok (currency, needed) ∧ v.available currency = .ok free ∧
        needed.value ≤ free.value) ∧ answered.venue = (v.rest c).2 := by
  rw [place] at answer
  split at answer
  next =>
    obtain rfl := Except.ok.inj answer
    cases taken
  next positive =>
    rw [not_or, le_iff_value, le_iff_value, value_zero, not_le, not_le] at positive
    split at answer
    next =>
      obtain rfl := Except.ok.inj answer
      cases taken
    next currency needed required =>
      obtain ⟨free, found, ends⟩ := Overflow.bind_eq_ok_iff.mp answer
      split at ends
      next =>
        obtain rfl := Except.ok.inj ends
        cases taken
      next enough =>
        obtain rfl := Except.ok.inj ends
        rw [lt_iff_value, not_lt] at enough
        exact ⟨positive.1, positive.2, ⟨currency, needed, free, required, found, enough⟩, rfl⟩

theorem cancel_market (v : Paper) (p : Pair) (id : OrderId) :
    SameMarket v (v.cancel p id).venue := by
  rw [cancel]
  split
  · exact .refl v
  · exact ⟨rfl, rfl, rfl⟩

/-- A call that neither places nor cancels leaves the venue as it is. -/
theorem serve_look {v : Paper} {c : Call} {answered : Answered c.Answer}
    (serve : v.serve c = .ok answered) (noPlace : c.kind ≠ .place) (noCancel : c.kind ≠ .cancel) :
    answered.venue = v := by
  cases c with
  | topOfBook p side =>
    obtain rfl := Except.ok.inj serve
    rw [Paper.topOfBook]
    split
    · rfl
    · rfl
  | openOrders =>
    obtain rfl := Except.ok.inj serve
    rfl
  | balance currency =>
    obtain ⟨free, -, ends⟩ := Overflow.bind_eq_ok_iff.mp serve
    obtain rfl := Except.ok.inj ends
    rfl
  | cancel p id => exact absurd rfl noCancel
  | place c => exact absurd rfl noPlace
  | budgetAdjust batch allOrNone =>
    obtain ⟨reply, -, ends⟩ := Overflow.bind_eq_ok_iff.mp serve
    obtain rfl := Except.ok.inj ends
    rfl

theorem answer_look {v : Paper} {c : Call} {answered : Answered c.Answer}
    (answer : v.answer c = .ok answered) (noPlace : c.kind ≠ .place)
    (noCancel : c.kind ≠ .cancel) : answered.venue = v := by
  rcases answer_cases answer with ⟨same, -⟩ | serve
  · exact same
  · exact serve_look serve noPlace noCancel

/-- No call changes more than the orders. -/
theorem answer_market {v : Paper} {c : Call} {answered : Answered c.Answer}
    (answer : v.answer c = .ok answered) : SameMarket v answered.venue := by
  rcases answer_cases answer with ⟨same, -⟩ | serve
  · rw [same]
    exact .refl v
  · by_cases places : c.kind = .place
    · cases c with
      | place c =>
        rcases place_venue serve with ⟨same, -⟩ | ⟨id, taken, -⟩
        · rw [same]
          exact .refl v
        · rw [(place_taken serve taken).2.2.2]
          exact ⟨rfl, rfl, rfl⟩
      | topOfBook | openOrders | balance | cancel | budgetAdjust => exact nomatch places
    · by_cases cancels : c.kind = .cancel
      · cases c with
        | cancel p id =>
          obtain rfl := Except.ok.inj serve
          exact cancel_market v p id
        | topOfBook | openOrders | balance | place | budgetAdjust => exact nomatch cancels
      · rw [serve_look serve places cancels]
        exact .refl v

theorem answer_working {v : Paper} (working : v.failing = []) (c : Call) :
    v.answer c = v.serve c := by
  rw [answer, working]
  rfl

/-- Calls for orders and books and cancels do not need any sum. -/
theorem answer_simple (v : Paper) {c : Call}
    (simple : c.kind ∈ [.openOrders, .topOfBook, .cancel]) :
    ∃ answered, v.answer c = .ok answered := by
  rw [answer]
  split
  · exact ⟨_, rfl⟩
  · cases c with
    | topOfBook | openOrders | cancel => exact ⟨_, rfl⟩
    | balance | place | budgetAdjust => simp [Call.kind] at simple

/-! ### Calls one after the other -/

namespace Answers

variable {u v w : Paper} {calls first rest : List Exchange}

/-- To be left alone is one way to be in use. -/
theorem serves (answers : Answers v calls w) : Serves v calls w := by
  induction answers with
  | nil v => exact .idle v
  | cons answer later ih => exact .call answer ih

theorem of_cons {c : Call} {r : c.Reply} (answers : Answers v (⟨c, r⟩ :: rest) w) :
    ∃ answered, v.answer c = .ok answered ∧ answered.reply = r ∧
      Answers answered.venue rest w := by
  generalize whole : (⟨c, r⟩ :: rest : List Exchange) = calls at answers
  cases answers with
  | nil => exact nomatch whole
  | cons answer later =>
    cases whole
    exact ⟨_, answer, rfl, later⟩

/-- The calls and their answers tell what becomes of the venue. -/
theorem unique {w' : Paper} (answers : Answers v calls w) (answers' : Answers v calls w') :
    w' = w := by
  induction answers with
  | nil v =>
    cases answers'
    rfl
  | cons answer later ih =>
    obtain ⟨answered, answer', -, later'⟩ := answers'.of_cons
    obtain rfl := Except.ok.inj (answer'.symm.trans answer)
    exact ih later'

theorem append (before : Answers v first u) (after : Answers u rest w) :
    Answers v (first ++ rest) w := by
  induction before with
  | nil v => exact after
  | cons answer later ih => exact .cons answer (ih after)

theorem split (answers : Answers v (first ++ rest) w) :
    ∃ u, Answers v first u ∧ Answers u rest w := by
  induction first generalizing v with
  | nil => exact ⟨v, .nil v, answers⟩
  | cons x first ih =>
    cases answers with
    | cons answer later =>
      obtain ⟨u, before, after⟩ := ih later
      exact ⟨u, .cons answer before, after⟩

theorem market (answers : Answers v calls w) : SameMarket v w := by
  induction answers with
  | nil v => exact .refl v
  | cons answer later ih => exact (answer_market answer).trans ih

/-- Calls that only look are all answered in the same state. -/
theorem look (answers : Answers v calls w) (looks : Looks calls) :
    w = v ∧ ∀ x ∈ calls, ∃ answered, v.answer x.1 = .ok answered ∧ answered.reply = x.2 := by
  induction answers with
  | nil v => exact ⟨rfl, fun x member => nomatch member⟩
  | @cons v w c answered calls answer later ih =>
    obtain ⟨here, others⟩ := List.forall_mem_cons.mp looks
    have same := answer_look answer (fun places => absurd (places ▸ here) (by decide))
      fun cancels => absurd (cancels ▸ here) (by decide)
    obtain ⟨rfl, all⟩ := ih others
    exact ⟨same, List.forall_mem_cons.mpr ⟨⟨answered, answer, rfl⟩, same ▸ all⟩⟩

end Answers

end Paper

end QuoteKeeper
