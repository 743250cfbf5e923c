import QuoteKeeper.Proofs.Dialogue.Transcript
import QuoteKeeper.Venue.Paper

/-!
# A venue in use

Between two calls anything from outside can happen to the paper venue: fills, a breakdown while it
fills, new books, new balances, calls that are made to fail from now on. None of it adds an order,
and of the calls only placing one does. The answer to a call for the resting orders is what rested,
and a budget answer that is as long as the batch is the batch.
-/

namespace QuoteKeeper

theorem Overflow.bind_eq_ok_iff {α β : Type} {x : Except Overflow α} {f : α → Except Overflow β}
    {b : β} : x >>= f = .ok b ↔ ∃ a, x = .ok a ∧ f a = .ok b := by
  cases x with
  | error e => exact ⟨fun h => (nomatch h), fun ⟨a, h, _⟩ => nomatch h⟩
  | ok a => exact ⟨fun h => ⟨a, rfl, h⟩, fun ⟨a', h, done⟩ => Except.ok.inj h ▸ done⟩

theorem Overflow.bind_eq_error_iff {α β : Type} {x : Except Overflow α}
    {f : α → Except Overflow β} {e : Overflow} :
    x >>= f = .error e ↔ x = .error e ∨ ∃ a, x = .ok a ∧ f a = .error e := by
  cases x with
  | error e' =>
    constructor
    · exact fun breaks => .inl (congrArg _ (Except.error.inj breaks))
    · rintro (breaks | ⟨a, found, -⟩)
      · exact congrArg _ (Except.error.inj breaks)
      · cases found
  | ok a =>
    constructor
    · exact fun breaks => .inr ⟨a, rfl, breaks⟩
    · rintro (found | ⟨a', found, breaks⟩)
      · cases found
      · exact Except.ok.inj found ▸ breaks

namespace Paper

/-- What can happen to a venue from outside. -/
inductive Outside (v : Paper) : Paper → Prop
  | filled {fills : List Fill} {w : Paper} (done : v.fillCrossed = .ok (fills, w)) : Outside v w
  /-- The venue breaks down while it fills what the books have reached, and is used all the same. -/
  | cutShort {e : Overflow} (breaks : v.fillCrossed = .error e) : Outside v v.fillUntil.2
  | adopted (reference : ReferenceBook) : Outside v (v.adopt reference)
  | booked (p : Pair) (book : BidAsk) : Outside v (v.setBook p book)
  | funded (currency : String) (amount : Decimal) : Outside v (v.setBalance currency amount)
  | faulted (kind : CallKind) (on : Bool) : Outside v (v.setFailing kind on)

/-- The venue in use, from one state to another, with the calls that are made meanwhile. A call is
answered by the venue, or it fails before it gets there. -/
inductive Serves : Paper → List Exchange → Paper → Prop
  | idle (v : Paper) : Serves v [] v
  | outside {v u w : Paper} {calls : List Exchange} (change : v.Outside u)
      (later : Serves u calls w) : Serves v calls w
  | call {v w : Paper} {c : Call} {answered : Answered c.Answer} {calls : List Exchange}
      (answer : v.answer c = .ok answered) (later : Serves answered.venue calls w) :
      Serves v (⟨c, answered.reply⟩ :: calls) w
  | fault {v w : Paper} {c : Call} {calls : List Exchange} (e : CallError)
      (later : Serves v calls w) : Serves v (⟨c, .error e⟩ :: calls) w

/-! ### Money -/

/-- Nothing but money has moved. -/
structure MovesMoney (v w : Paper) : Prop where
  orders : w.orders = v.orders
  books : w.books = v.books
  failing : w.failing = v.failing
  canceled : w.canceled = v.canceled
  issued : w.issued = v.issued

theorem MovesMoney.refl (v : Paper) : v.MovesMoney v := ⟨rfl, rfl, rfl, rfl, rfl⟩

theorem MovesMoney.trans {v u w : Paper} (first : v.MovesMoney u) (second : u.MovesMoney w) :
    v.MovesMoney w where
  orders := second.orders.trans first.orders
  books := second.books.trans first.books
  failing := second.failing.trans first.failing
  canceled := second.canceled.trans first.canceled
  issued := second.issued.trans first.issued

theorem credit_money {v w : Paper} {currency : String} {change : Decimal}
    (done : v.credit currency change = .ok w) : v.MovesMoney w := by
  obtain ⟨amount, -, ends⟩ := Overflow.bind_eq_ok_iff.mp done
  obtain rfl := Except.ok.inj ends
  exact ⟨rfl, rfl, rfl, rfl, rfl⟩

theorem settle_money {v w : Paper} {o : RestingOrder} (done : v.settle o = .ok w) :
    v.MovesMoney w := by
  obtain ⟨value, -, moves⟩ := Overflow.bind_eq_ok_iff.mp done
  cases side : o.side with
  | buy =>
    simp only [side] at moves
    obtain ⟨u, first, second⟩ := Overflow.bind_eq_ok_iff.mp moves
    exact (credit_money first).trans (credit_money second)
  | sell =>
    simp only [side] at moves
    obtain ⟨u, first, second⟩ := Overflow.bind_eq_ok_iff.mp moves
    exact (credit_money first).trans (credit_money second)

theorem settleHalf_money (v : Paper) (o : RestingOrder) : v.MovesMoney (v.settleHalf o) := by
  have paid : ∀ currency change,
      v.MovesMoney ((v.credit currency change).toOption.getD v) := by
    intro currency change
    cases done : v.credit currency change with
    | error e => exact .refl v
    | ok w => exact credit_money done
  rw [settleHalf]
  split
  · exact .refl v
  · split
    · exact paid _ _
    · exact paid _ _

/-! ### Filling, as far as it goes -/

theorem settleUntil_money (orders : List RestingOrder) (v : Paper) :
    v.MovesMoney (v.settleUntil orders).2 := by
  induction orders generalizing v with
  | nil => exact .refl v
  | cons o orders ih =>
    rw [settleUntil]
    split
    next => exact settleHalf_money v o
    next w first => exact (settle_money first).trans (ih w)

/-- What is settled is a beginning of the orders. -/
theorem settleUntil_begins (orders : List RestingOrder) (v : Paper) :
    (v.settleUntil orders).1 <+: orders := by
  induction orders generalizing v with
  | nil => exact List.prefix_refl []
  | cons o orders ih =>
    rw [settleUntil]
    split
    next => exact List.nil_prefix
    next w first => exact List.cons_prefix_cons.mpr ⟨rfl, ih w⟩

/-- Without a breakdown all orders are settled. -/
theorem settleUntil_of_done {orders : List RestingOrder} {v w : Paper}
    (done : v.settleAll orders = .ok w) : v.settleUntil orders = (orders, w) := by
  induction orders generalizing v with
  | nil =>
    obtain rfl := Except.ok.inj done
    rfl
  | cons o orders ih =>
    obtain ⟨u, first, rest⟩ := Overflow.bind_eq_ok_iff.mp done
    rw [settleUntil, first]
    dsimp only
    rw [ih rest]

/-- A breakdown is over one of the orders: those before it are settled, and it may be so by half. -/
theorem settleUntil_of_breaks {orders : List RestingOrder} {v : Paper} {e : Overflow}
    (breaks : v.settleAll orders = .error e) :
    ∃ settled o rest w, orders = settled ++ o :: rest ∧ v.settleAll settled = .ok w ∧
      w.settle o = .error e ∧ v.settleUntil orders = (settled, w.settleHalf o) := by
  induction orders generalizing v with
  | nil => cases breaks
  | cons o orders ih =>
    rcases Overflow.bind_eq_error_iff.mp breaks with here | ⟨u, first, later⟩
    · refine ⟨[], o, orders, v, rfl, rfl, here, ?_⟩
      rw [settleUntil, here]
    · obtain ⟨settled, o', rest, w, parts, done, here, left⟩ := ih later
      refine ⟨o :: settled, o', rest, w, congrArg (o :: ·) parts, ?_, here, ?_⟩
      · exact Overflow.bind_eq_ok_iff.mpr ⟨u, first, done⟩
      · rw [settleUntil, first]
        dsimp only
        rw [left]

/-- The crossed orders are gone, and money has moved. -/
theorem fillUntil_money (v : Paper) :
    { v with orders := v.orders.filter (!v.crosses ·) }.MovesMoney v.fillUntil.2 :=
  settleUntil_money _ _

/-- The fills are of a beginning of the crossed orders. -/
theorem fillUntil_begins (v : Paper) :
    v.fillUntil.1 <+: (v.orders.filter v.crosses).map (·.fill) :=
  (settleUntil_begins _ _).map _

theorem fillUntil_of_done {v w : Paper} {fills : List Fill}
    (done : v.fillCrossed = .ok (fills, w)) : v.fillUntil = (fills, w) := by
  obtain ⟨settled, moves, ends⟩ := Overflow.bind_eq_ok_iff.mp done
  rw [fillUntil, settleUntil_of_done moves]
  exact Except.ok.inj ends

/-- Where the venue breaks down over a crossed order, those before it are filled. -/
theorem fillUntil_of_breaks {v : Paper} {e : Overflow} (breaks : v.fillCrossed = .error e) :
    ∃ settled o rest w, v.orders.filter v.crosses = settled ++ o :: rest ∧
      { v with orders := v.orders.filter (!v.crosses ·) }.settleAll settled = .ok w ∧
      w.settle o = .error e ∧ v.fillUntil = (settled.map (·.fill), w.settleHalf o) := by
  rcases Overflow.bind_eq_error_iff.mp breaks with stops | ⟨settled, -, ends⟩
  · obtain ⟨settled, o, rest, w, parts, done, here, left⟩ := settleUntil_of_breaks stops
    refine ⟨settled, o, rest, w, parts, done, here, ?_⟩
    rw [fillUntil, left]
  · exact nomatch ends

theorem fillCrossed_money {v w : Paper} {fills : List Fill}
    (done : v.fillCrossed = .ok (fills, w)) :
    { v with orders := v.orders.filter (!v.crosses ·) }.MovesMoney w := by
  have money := v.fillUntil_money
  rwa [fillUntil_of_done done] at money

theorem fillCrossed_orders {v w : Paper} {fills : List Fill}
    (done : v.fillCrossed = .ok (fills, w)) : w.orders = v.orders.filter (!v.crosses ·) :=
  (fillCrossed_money done).orders

/-! ### From outside -/

/-- A reference changes nothing but books. -/
theorem adopt_books (v : Paper) (reference : ReferenceBook) :
    v.adopt reference = { v with books := (v.adopt reference).books } := by
  rw [adopt]
  induction reference.entries generalizing v with
  | nil => rfl
  | cons e entries ih =>
    obtain ⟨p, q⟩ := e
    rw [List.foldl_cons]
    by_cases valid : q.isValid = true
    · simp only [valid, if_true]
      exact ih (v.setBook p q)
    · simp only [valid]
      exact ih v

theorem adopt_orders (v : Paper) (reference : ReferenceBook) :
    (v.adopt reference).orders = v.orders := by
  rw [adopt_books]

/-- Nothing from outside adds an order. -/
theorem Outside.sublist {v w : Paper} (change : v.Outside w) : w.orders.Sublist v.orders := by
  cases change with
  | filled done =>
    rw [fillCrossed_orders done]
    exact List.filter_sublist
  | cutShort breaks =>
    rw [v.fillUntil_money.orders]
    exact List.filter_sublist
  | adopted reference =>
    exact adopt_orders v reference ▸ List.Sublist.refl _
  | booked | funded | faulted => exact List.Sublist.refl _

/-! ### Answers -/

theorem cancel_sublist (v : Paper) (p : Pair) (id : OrderId) :
    (v.cancel p id).venue.orders.Sublist v.orders := by
  rw [cancel]
  split
  · exact List.Sublist.refl _
  · exact List.eraseIdx_sublist _ _

/-- Placing either adds the order under the id that it answers or changes nothing. -/
theorem place_venue {v : Paper} {c : Candidate} {answered : Answered OrderId}
    (answer : v.place c = .ok answered) :
    (answered.venue = v ∧ ∃ e, answered.reply = .error e) ∨
      ∃ id, answered.reply = .ok id ∧ answered.venue.orders = v.orders ++ [c.rest id] := by
  rw [place] at answer
  split at answer
  · obtain rfl := Except.ok.inj answer
    exact Or.inl ⟨rfl, _, rfl⟩
  · split at answer
    · obtain rfl := Except.ok.inj answer
      exact Or.inl ⟨rfl, _, rfl⟩
    · obtain ⟨available, -, ends⟩ := Overflow.bind_eq_ok_iff.mp answer
      split at ends
      · obtain rfl := Except.ok.inj ends
        exact Or.inl ⟨rfl, _, rfl⟩
      · obtain rfl := Except.ok.inj ends
        exact Or.inr ⟨_, rfl, rfl⟩

/-- What can be paid for of a batch is a beginning of it. -/
theorem affordable_begins {v : Paper} {batch accepted : List Candidate}
    {spent : Table String Decimal} (answer : v.affordable spent batch = .ok (.ok accepted)) :
    accepted <+: batch := by
  induction batch generalizing spent accepted with
  | nil =>
    obtain rfl := Except.ok.inj (Except.ok.inj answer)
    exact List.nil_prefix
  | cons c batch ih =>
    rw [affordable] at answer
    split at answer
    · exact nomatch Except.ok.inj answer
    · obtain ⟨total, -, goesOn⟩ := Overflow.bind_eq_ok_iff.mp answer
      obtain ⟨available, -, checks⟩ := Overflow.bind_eq_ok_iff.mp goesOn
      split at checks
      · obtain rfl := Except.ok.inj (Except.ok.inj checks)
        exact List.nil_prefix
      · obtain ⟨others, found, ends⟩ := Overflow.bind_eq_ok_iff.mp checks
        cases others with
        | error e => exact nomatch Except.ok.inj ends
        | ok more =>
          obtain rfl := Except.ok.inj (Except.ok.inj ends)
          exact List.cons_prefix_cons.mpr ⟨rfl, ih found⟩

/-- A budget answer as long as the batch is the batch. -/
theorem adjust_whole {v : Paper} {batch adjusted : List Candidate} {allOrNone : Bool}
    (answer : v.adjust batch allOrNone = .ok (.ok adjusted))
    (whole : adjusted.length = batch.length) : adjusted = batch := by
  obtain ⟨found, affords, ends⟩ := Overflow.bind_eq_ok_iff.mp answer
  cases found with
  | error e => exact nomatch Except.ok.inj ends
  | ok accepted =>
    have reply := Except.ok.inj (Except.ok.inj ends)
    dsimp only at reply
    split at reply
    · subst reply
      exact (List.length_eq_zero_iff.mp whole.symm).symm
    · subst reply
      exact (affordable_begins affords).eq_of_length whole

/-- A call that is answered is served, unless it is made to fail. -/
theorem answer_cases {v : Paper} {c : Call} {answered : Answered c.Answer}
    (answer : v.answer c = .ok answered) :
    (answered.venue = v ∧ ∃ e, answered.reply = .error e) ∨ v.serve c = .ok answered := by
  rw [Paper.answer] at answer
  split at answer
  · obtain rfl := Except.ok.inj answer
    exact Or.inl ⟨rfl, _, rfl⟩
  · exact Or.inr answer

theorem serve_sublist {v : Paper} {c : Call} {answered : Answered c.Answer}
    (serve : v.serve c = .ok answered) (other : c.kind ≠ .place) :
    answered.venue.orders.Sublist v.orders := by
  cases c with
  | topOfBook p side =>
    obtain rfl := Except.ok.inj serve
    rw [Paper.topOfBook]
    split
    · exact List.Sublist.refl _
    · exact List.Sublist.refl _
  | openOrders =>
    obtain rfl := Except.ok.inj serve
    exact List.Sublist.refl _
  | balance currency =>
    obtain ⟨available, -, ends⟩ := Overflow.bind_eq_ok_iff.mp serve
    obtain rfl := Except.ok.inj ends
    exact List.Sublist.refl _
  | cancel p id =>
    obtain rfl := Except.ok.inj serve
    exact cancel_sublist v p id
  | place c => exact absurd rfl other
  | budgetAdjust batch allOrNone =>
    obtain ⟨reply, -, ends⟩ := Overflow.bind_eq_ok_iff.mp serve
    obtain rfl := Except.ok.inj ends
    exact List.Sublist.refl _

theorem answer_sublist {v : Paper} {c : Call} {answered : Answered c.Answer}
    (answer : v.answer c = .ok answered) (other : c.kind ≠ .place) :
    answered.venue.orders.Sublist v.orders := by
  rcases answer_cases answer with ⟨same, -⟩ | serve
  · exact same ▸ List.Sublist.refl _
  · exact serve_sublist serve other

/-! ### A run of calls -/

namespace Serves

variable {v w : Paper} {calls : List Exchange}

/-- Without calls that place orders, no order is added. -/
theorem sublist (serves : Serves v calls w) (nothing : ∀ x ∈ calls, x.1.kind ≠ .place) :
    w.orders.Sublist v.orders := by
  induction serves with
  | idle v => exact List.Sublist.refl _
  | outside change later ih => exact (ih nothing).trans change.sublist
  | call answer later ih =>
    obtain ⟨first, rest⟩ := List.forall_mem_cons.mp nothing
    exact (ih rest).trans (answer_sublist answer first)
  | fault e later ih => exact ih (List.forall_mem_cons.mp nothing).2

theorem sublist_nil (serves : Serves v [] w) : w.orders.Sublist v.orders :=
  serves.sublist fun _ member => nomatch member

/-- Between two parts of the calls the venue is in some state. -/
theorem split {first rest : List Exchange} (serves : Serves v (first ++ rest) w) :
    ∃ u, Serves v first u ∧ Serves u rest w := by
  generalize whole : first ++ rest = calls at serves
  induction serves generalizing first with
  | idle v =>
    obtain ⟨rfl, rfl⟩ := List.append_eq_nil_iff.mp whole
    exact ⟨v, .idle v, .idle v⟩
  | outside change later ih =>
    obtain ⟨u, before, after⟩ := ih whole
    exact ⟨u, .outside change before, after⟩
  | call answer later ih =>
    rcases List.append_eq_cons_iff.mp whole with ⟨rfl, rfl⟩ | ⟨others, rfl, rfl⟩
    · exact ⟨_, .idle _, .call answer later⟩
    · obtain ⟨u, before, after⟩ := ih rfl
      exact ⟨u, .call answer before, after⟩
  | fault e later ih =>
    rcases List.append_eq_cons_iff.mp whole with ⟨rfl, rfl⟩ | ⟨others, rfl, rfl⟩
    · exact ⟨_, .idle _, .fault e later⟩
    · obtain ⟨u, before, after⟩ := ih rfl
      exact ⟨u, .fault e before, after⟩

theorem split_cons {x : Exchange} {rest : List Exchange} (serves : Serves v (x :: rest) w) :
    ∃ u, Serves v [x] u ∧ Serves u rest w := by
  rw [← List.singleton_append] at serves
  exact serves.split

theorem append {first rest : List Exchange} {u : Paper} (before : Serves v first u)
    (after : Serves u rest w) : Serves v (first ++ rest) w := by
  induction before with
  | idle v => exact after
  | outside change later ih => exact .outside change (ih after)
  | call answer later ih => exact .call answer (ih after)
  | fault e later ih => exact .fault e (ih after)

/-- A single call is answered in a state whose orders are among those from before, and what is left
of the orders afterwards is among those that the answer leaves. -/
theorem single {c : Call} {r : c.Reply} (serves : Serves v [⟨c, r⟩] w) :
    ∃ u : Paper, u.orders.Sublist v.orders ∧
      ((∃ e, r = .error e) ∧ w.orders.Sublist u.orders ∨
        ∃ answered, u.answer c = .ok answered ∧ answered.reply = r ∧
          w.orders.Sublist answered.venue.orders) := by
  generalize only : [(⟨c, r⟩ : Exchange)] = calls at serves
  induction serves with
  | idle v => exact nomatch only
  | outside change later ih =>
    obtain ⟨u, before, after⟩ := ih only
    exact ⟨u, before.trans change.sublist, after⟩
  | call answer later ih =>
    cases only
    exact ⟨_, List.Sublist.refl _, Or.inr ⟨_, answer, rfl, later.sublist_nil⟩⟩
  | fault e later ih =>
    cases only
    exact ⟨_, List.Sublist.refl _, Or.inl ⟨⟨e, rfl⟩, later.sublist_nil⟩⟩

/-- The resting orders that are answered are among those from before, and those afterwards are among
them. -/
theorem openOrders {orders : List RestingOrder} (serves : Serves v [⟨.openOrders, .ok orders⟩] w) :
    orders.Sublist v.orders ∧ w.orders.Sublist orders := by
  obtain ⟨u, before, ⟨⟨e, wrong⟩, -⟩ | ⟨answered, answer, reply, after⟩⟩ := serves.single
  · exact nomatch wrong
  · rcases answer_cases answer with ⟨-, e, wrong⟩ | serve
    · exact nomatch wrong.symm.trans reply
    · obtain rfl := Except.ok.inj serve
      obtain rfl := Except.ok.inj reply
      exact ⟨before, after⟩

/-- A budget answer as long as the batch is the batch. -/
theorem budget {batch adjusted : List Candidate} {allOrNone : Bool}
    (serves : Serves v [⟨.budgetAdjust batch allOrNone, .ok adjusted⟩] w)
    (whole : adjusted.length = batch.length) : adjusted = batch := by
  obtain ⟨u, -, ⟨⟨e, wrong⟩, -⟩ | ⟨answered, answer, reply, -⟩⟩ := serves.single
  · exact nomatch wrong
  · rcases answer_cases answer with ⟨-, e, wrong⟩ | serve
    · exact nomatch wrong.symm.trans reply
    · obtain ⟨found, adjusts, ends⟩ := Overflow.bind_eq_ok_iff.mp serve
      obtain rfl := Except.ok.inj ends
      obtain rfl : found = .ok adjusted := reply
      exact adjust_whole adjusts whole

/-- A call that places a candidate adds at most the order it becomes. -/
theorem place {c : Candidate} {r : (Call.place c).Reply} (serves : Serves v [⟨.place c, r⟩] w) :
    w.orders.Sublist v.orders ∨ ∃ id, w.orders.Sublist (v.orders ++ [c.rest id]) := by
  obtain ⟨u, before, ⟨-, after⟩ | ⟨answered, answer, -, after⟩⟩ := serves.single
  · exact Or.inl (after.trans before)
  · rcases answer_cases answer with ⟨same, -⟩ | serve
    · exact Or.inl (after.trans (same ▸ before))
    · rcases place_venue serve with ⟨same, -⟩ | ⟨id, -, added⟩
      · exact Or.inl (after.trans (same ▸ before))
      · exact Or.inr ⟨id, after.trans (added ▸ before.append (List.Sublist.refl _))⟩

end Serves

end Paper

end QuoteKeeper
