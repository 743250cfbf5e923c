import QuoteKeeper.Proofs.Venue.Solvency

/-!
# Every order is accounted for

Whatever is done with a venue, by its keeper or from outside, an order that has come to rest either
still rests, or has been canceled, or has been filled: one of the three, and once. Nothing else is
ever canceled or filled, and what rests is in the order in which it came, as it was. A call that
fails leaves the venue as it is.
-/

namespace QuoteKeeper

namespace Paper

/-- No id is given out twice. -/
theorem idAfter_injective : Function.Injective idAfter := by
  intro a b same
  have shown : toString (a + 1) = toString (b + 1) := (String.append_right_inj "#").mp same
  rw [Nat.toString_eq_ofList_toDigits, Nat.toString_eq_ofList_toDigits] at shown
  have digits := String.ofList_injective shown
  have number : a + 1 = b + 1 := by
    rw [← Nat.ofDigitChars_ten_toDigits (n := a + 1), digits, Nat.ofDigitChars_ten_toDigits]
  exact Nat.succ_injective number

/-- What can be done with a venue. -/
inductive Operation where
  /-- Let an order rest, whatever the balances. -/
  | seed (c : Candidate)
  | call (c : Call)
  /-- Fill what the books have reached. -/
  | fill
  | fund (currency : String) (amount : Decimal)
  | book (p : Pair) (book : BidAsk)
  | adopt (reference : ReferenceBook)
  | fault (kind : CallKind) (on : Bool)

/-- The order that a call has brought to rest. -/
def opened : (c : Call) → c.Reply → List RestingOrder
  | .place c, reply =>
    match reply with
    | .ok id => [c.rest id]
    | .error _ => []
  | .topOfBook _ _, _ | .openOrders, _ | .balance _, _ | .cancel _ _, _ | .budgetAdjust _ _, _ => []

/-- The venue after an operation, with the orders that have come to rest and those filled. -/
structure Performed where
  venue : Paper
  created : List RestingOrder := []
  filled : List Fill := []

def perform (v : Paper) : Operation → Except Overflow Performed
  | .seed c => .ok { venue := (v.rest c).2, created := [c.rest (v.rest c).1] }
  | .call c => do
    let answered ← v.answer c
    return { venue := answered.venue, created := opened c answered.reply }
  | .fill => do
    let (filled, venue) ← v.fillCrossed
    return { venue, filled }
  | .fund currency amount => .ok { venue := v.setBalance currency amount }
  | .book p book => .ok { venue := v.setBook p book }
  | .adopt reference => .ok { venue := v.adopt reference }
  | .fault kind on => .ok { venue := v.setFailing kind on }

/-! ### What one operation can do -/

/-- What becomes of the orders, with those that come to rest and those that are filled. -/
inductive Change (v w : Paper) : List RestingOrder → List Fill → Prop
  | nothing (orders : w.orders = v.orders) (canceled : w.canceled = v.canceled)
      (issued : w.issued = v.issued) : Change v w [] []
  | added (c : Candidate) (orders : w.orders = v.orders ++ [c.rest (idAfter v.issued)])
      (canceled : w.canceled = v.canceled) (issued : w.issued = v.issued + 1) :
      Change v w [c.rest (idAfter v.issued)] []
  | removed {i : Nat} (known : i < v.orders.length) (orders : w.orders = v.orders.eraseIdx i)
      (canceled : w.canceled = v.canceled ++ [v.orders[i].id]) (issued : w.issued = v.issued) :
      Change v w [] []
  | filled (orders : w.orders = v.orders.filter (!v.crosses ·)) (canceled : w.canceled = v.canceled)
      (issued : w.issued = v.issued) :
      Change v w [] ((v.orders.filter v.crosses).map (·.fill))

theorem change_self (v : Paper) : Change v v [] [] := .nothing rfl rfl rfl

theorem cancel_change (v : Paper) (p : Pair) (id : OrderId) :
    Change v (v.cancel p id).venue [] [] := by
  rw [cancel]
  split
  next => exact change_self v
  next i found =>
    obtain ⟨known, picked, -⟩ := List.findIdx?_eq_some_iff_getElem.mp found
    obtain ⟨same, -⟩ := Bool.and_eq_true_iff.mp picked
    refine .removed known rfl ?_ rfl
    rw [of_decide_eq_true same]

theorem place_change {v : Paper} {c : Candidate} {answered : Answered OrderId}
    (answer : v.place c = .ok answered) :
    Change v answered.venue (opened (.place c) answered.reply) [] := by
  rcases place_venue answer with ⟨same, e, refused⟩ | ⟨id, taken, rests⟩
  · rw [same, refused]
    exact change_self v
  · have venue := (place_taken answer taken).2.2.2
    rw [venue] at rests
    have given : idAfter v.issued = id :=
      congrArg RestingOrder.id (List.singleton_inj.mp (List.append_cancel_left rests))
    rw [taken, venue, ← given]
    exact .added c rfl rfl rfl

/-- A call changes the orders by one at most. -/
theorem answer_change {v : Paper} {c : Call} {answered : Answered c.Answer}
    (answer : v.answer c = .ok answered) :
    Change v answered.venue (opened c answered.reply) [] := by
  rcases answer_cases answer with ⟨same, e, failed⟩ | serve
  · rw [same, failed]
    cases c with
    | topOfBook | openOrders | balance | cancel | place | budgetAdjust => exact change_self v
  · cases c with
    | place c => exact place_change serve
    | cancel p id =>
      obtain rfl := Except.ok.inj serve
      exact cancel_change v p id
    | topOfBook | openOrders | balance | budgetAdjust =>
      rw [serve_look serve CallKind.noConfusion CallKind.noConfusion]
      exact change_self v

/-- Whether the venue breaks down or not, no crossed order rests any more, as if all of them had
been filled. -/
theorem fillUntil_change (v : Paper) :
    Change v v.fillUntil.2 [] ((v.orders.filter v.crosses).map (·.fill)) :=
  .filled v.fillUntil_money.orders v.fillUntil_money.canceled v.fillUntil_money.issued

theorem fillCrossed_change {v w : Paper} {fills : List Fill}
    (done : v.fillCrossed = .ok (fills, w)) : Change v w [] fills := by
  have change := v.fillUntil_change
  rwa [fillUntil_of_done done, ← fillCrossed_fills done] at change

theorem adopt_change (v : Paper) (reference : ReferenceBook) :
    Change v (v.adopt reference) [] [] := by
  rw [adopt_books]
  exact .nothing rfl rfl rfl

theorem perform_change {v : Paper} {op : Operation} {done : Performed}
    (performed : v.perform op = .ok done) : Change v done.venue done.created done.filled := by
  cases op with
  | seed c =>
    obtain rfl := Except.ok.inj performed
    exact .added c rfl rfl rfl
  | call c =>
    obtain ⟨answered, answer, ends⟩ := Overflow.bind_eq_ok_iff.mp performed
    obtain rfl := Except.ok.inj ends
    exact answer_change answer
  | fill =>
    obtain ⟨⟨fills, w⟩, crossed, ends⟩ := Overflow.bind_eq_ok_iff.mp performed
    obtain rfl := Except.ok.inj ends
    exact fillCrossed_change crossed
  | adopt reference =>
    obtain rfl := Except.ok.inj performed
    exact adopt_change v reference
  | fund | book | fault =>
    obtain rfl := Except.ok.inj performed
    exact .nothing rfl rfl rfl

/-! ### The account -/

/-- How often an id is shown: as that of a resting order, as canceled and as that of a fill. -/
def shown (v : Paper) (fills : List Fill) (id : OrderId) : Nat :=
  (v.orders.map (·.id)).count id + v.canceled.count id + (fills.map (·.id)).count id

/-- All orders that have come to rest, and the fills, against what the venue shows. -/
structure Accounted (created : List RestingOrder) (fills : List Fill) (v : Paper) : Prop where
  /-- The ids are those that were given out. -/
  issued : created.map (·.id) = (List.range v.issued).map idAfter
  resting : v.orders.Sublist created
  filled : ∀ f ∈ fills, ∃ o ∈ created, o.fill = f
  placed : ∀ id, v.shown fills id = (created.map (·.id)).count id

theorem accounted_new : Accounted [] [] {} where
  issued := rfl
  resting := List.Sublist.refl _
  filled := List.forall_mem_nil _
  placed _ := rfl

/-- An operation moves an id from one place to another, or brings it up. -/
theorem Change.shown {v w : Paper} {new : List RestingOrder} {filled : List Fill}
    (change : Change v w new filled) (fills : List Fill) (id : OrderId) :
    w.shown (fills ++ filled) id = v.shown fills id + (new.map (·.id)).count id := by
  rw [Paper.shown, Paper.shown, List.map_append, List.count_append]
  cases change with
  | nothing orders canceled issued =>
    rw [orders, canceled]
    rfl
  | added c orders canceled issued =>
    rw [orders, canceled, List.map_append, List.count_append, List.map_nil, List.count_nil]
    omega
  | @removed i known orders canceled issued =>
    have moved := ((List.getElem_cons_eraseIdx_perm known).map fun o => o.id).count_eq id
    rw [List.map_cons, List.count_cons] at moved
    simp only [orders, canceled, List.count_append, List.count_singleton, List.map_nil,
      List.count_nil]
    omega
  | filled orders canceled issued =>
    have both := ((List.filter_append_perm v.crosses v.orders).map fun o => o.id).count_eq id
    have ids : ((v.orders.filter v.crosses).map (·.fill)).map (·.id) =
        (v.orders.filter v.crosses).map (·.id) := List.map_map
    rw [List.map_append, List.count_append] at both
    rw [orders, canceled, ids, List.map_nil, List.count_nil]
    omega

namespace Accounted

variable {v w : Paper} {created : List RestingOrder} {fills : List Fill}

/-- An operation keeps the account. -/
theorem change {new : List RestingOrder} {filled : List Fill}
    (accounted : Accounted created fills v) (change : Change v w new filled) :
    Accounted (created ++ new) (fills ++ filled) w := by
  obtain ⟨given, resting, origin, placed⟩ := accounted
  have moved : ∀ id, w.shown (fills ++ filled) id = ((created ++ new).map (·.id)).count id := by
    intro id
    rw [change.shown, placed, List.map_append, List.count_append]
  have old : ∀ f ∈ fills, ∃ o ∈ created ++ new, o.fill = f := by
    intro f member
    obtain ⟨o, listed, same⟩ := origin f member
    exact ⟨o, List.mem_append_left _ listed, same⟩
  cases change with
  | nothing orders canceled issued =>
    rw [List.append_nil, List.append_nil] at *
    exact ⟨issued ▸ given, orders ▸ resting, origin, moved⟩
  | added c orders canceled issued =>
    refine ⟨?_, orders ▸ resting.append (List.Sublist.refl _), ?_, moved⟩
    · rw [issued, List.map_append, given, List.range_succ, List.map_append]
      rfl
    · rw [List.append_nil]
      exact old
  | removed known orders canceled issued =>
    rw [List.append_nil, List.append_nil] at *
    exact ⟨issued ▸ given, orders ▸ (List.eraseIdx_sublist _ _).trans resting, origin, moved⟩
  | filled orders canceled issued =>
    rw [List.append_nil] at *
    refine ⟨issued ▸ given, orders ▸ List.filter_sublist.trans resting, ?_, moved⟩
    refine List.forall_mem_append.mpr ⟨origin, fun f member => ?_⟩
    obtain ⟨o, crossed, rfl⟩ := List.mem_map.mp member
    exact ⟨o, resting.subset (List.mem_filter.mp crossed).1, rfl⟩

/-- No id was given out twice. -/
theorem nodup (accounted : Accounted created fills v) : (created.map (·.id)).Nodup := by
  rw [accounted.issued]
  exact List.nodup_range.map idAfter_injective

/-- An id that was given out is in one place and once, any other is in none. -/
theorem shown_eq (accounted : Accounted created fills v) (id : OrderId) :
    v.shown fills id = if id ∈ created.map (·.id) then 1 else 0 := by
  rw [accounted.placed]
  split
  next known => exact List.count_eq_one_of_mem accounted.nodup known
  next unknown => exact List.count_eq_zero.mpr unknown

end Accounted

/-- A call that fails changes nothing. -/
theorem answer_failed {v : Paper} {c : Call} {answered : Answered c.Answer} {e : CallError}
    (answer : v.answer c = .ok answered) (failed : answered.reply = .error e) :
    answered.venue = v := by
  rcases answer_cases answer with ⟨same, -⟩ | serve
  · exact same
  · cases c with
    | place c =>
      rcases place_venue serve with ⟨same, -⟩ | ⟨id, taken, -⟩
      · exact same
      · cases failed.symm.trans taken
    | cancel p id =>
      obtain rfl := Except.ok.inj serve
      rw [Paper.cancel] at failed ⊢
      split at failed
      · rfl
      · cases failed
    | topOfBook | openOrders | balance | budgetAdjust =>
      exact serve_look serve CallKind.noConfusion CallKind.noConfusion

end Paper

/-! ### Whole histories -/

/-- A venue with all that has become of its orders. -/
structure Ledger where
  venue : Paper := {}
  /-- All orders that have come to rest, in the order in which they did. -/
  created : List RestingOrder := []
  fills : List Fill := []

namespace Ledger

open Paper

/-- The ledger after some operations, one after the other. -/
def performAll (l : Ledger) : List Operation → Except Overflow Ledger
  | [] => .ok l
  | op :: rest => do
    let done ← l.venue.perform op
    performAll
      { venue := done.venue
        created := l.created ++ done.created
        fills := l.fills ++ done.filled } rest

theorem performAll_accounted {ops : List Operation} {l l' : Ledger}
    (accounted : Accounted l.created l.fills l.venue) (done : l.performAll ops = .ok l') :
    Accounted l'.created l'.fills l'.venue := by
  induction ops generalizing l with
  | nil =>
    obtain rfl := Except.ok.inj done
    exact accounted
  | cons op ops ih =>
    obtain ⟨performed, first, rest⟩ := Overflow.bind_eq_ok_iff.mp done
    exact ih (accounted.change (perform_change first)) rest

/-- Whatever is done with a new venue, in any order: every id that was given out is that of one
order, which rests, has been canceled or has been filled, one of these and once; nothing else was
ever canceled or filled; and what rests is as it came, in the order in which it came. A call that
fails, in whatever state, leaves the venue as it was. -/
theorem performAll_conserved {ops : List Operation} {l : Ledger}
    (done : ({} : Ledger).performAll ops = .ok l) :
    (l.created.map (·.id)).Nodup ∧
      (∀ id, (l.venue.orders.map (·.id)).count id + l.venue.canceled.count id +
        (l.fills.map (·.id)).count id = if id ∈ l.created.map (·.id) then 1 else 0) ∧
      l.venue.orders.Sublist l.created ∧ (∀ f ∈ l.fills, ∃ o ∈ l.created, o.fill = f) ∧
      ∀ (v : Paper) (c : Call) (answered : Answered c.Answer) (e : CallError),
        v.answer c = .ok answered → answered.reply = .error e → answered.venue = v := by
  have accounted := performAll_accounted accounted_new done
  exact ⟨accounted.nodup, accounted.shown_eq, accounted.resting, accounted.filled,
    fun v c answered e => answer_failed⟩

/-- Three orders of which one is canceled, one filled and one rests, with calls that fail for want
of money, for the wrong pair and for an order that is gone. -/
def smallOperations : List Operation :=
  let pair : Pair := ⟨"X", "BTC"⟩
  [.fund "BTC" 1.0, .book pair ⟨0.00098, 0.00112⟩,
    .seed { pair, side := .sell, price := 0.0012, amount := 5.0 }, .call (.place smallBuy),
    .call (.place { smallBuy with amount := 10000.0 }), .call (.cancel ⟨"Y", "BTC"⟩ "#2"),
    .call (.cancel pair "#1"), .book pair ⟨0.0009, 0.00094⟩, .fill, .call (.cancel pair "#2"),
    .seed { smallBuy with price := 0.0009 }]

theorem performAll_conserved_small : ∃ l, ({} : Ledger).performAll smallOperations = .ok l ∧
    l.created.map (·.id) = ["#1", "#2", "#3"] ∧ l.venue.orders.map (·.id) = ["#3"] ∧
    l.venue.canceled = ["#1"] ∧ l.fills.map (·.id) = ["#2"] ∧
    (l.created.map (·.id)).Nodup ∧ l.venue.orders.Sublist l.created ∧
    l.venue.shown l.fills "#2" = 1 ∧
    ∃ answered e, smallReached.answer (.cancel ⟨"Y", "BTC"⟩ "#1") = .ok answered ∧
      answered.reply = .error e ∧ answered.venue = smallReached := by
  have ended : (({} : Ledger).performAll smallOperations).toOption.map (fun l =>
      (l.created.map (·.id), l.venue.orders.map (·.id), l.venue.canceled, l.fills.map (·.id))) =
        some (["#1", "#2", "#3"], ["#3"], ["#1"], ["#2"]) := by
    decide +kernel
  cases done : ({} : Ledger).performAll smallOperations with
  | error e =>
    rw [done] at ended
    cases ended
  | ok l =>
    rw [done] at ended
    obtain ⟨created, others⟩ := Prod.mk.inj (Option.some.inj ended)
    obtain ⟨resting, others⟩ := Prod.mk.inj others
    obtain ⟨canceled, filled⟩ := Prod.mk.inj others
    obtain ⟨distinct, each, kept, -, failed⟩ := performAll_conserved done
    have once := each "#2"
    rw [created, if_pos (by decide)] at once
    obtain ⟨answered, answer⟩ :=
      answer_simple smallReached (c := .cancel ⟨"Y", "BTC"⟩ "#1") (by decide)
    have refused : answered.reply = .error { root := "unknown order #1 on Y-BTC" } := by
      have told : (smallReached.answer (.cancel ⟨"Y", "BTC"⟩ "#1")).toOption.map (·.reply) =
          some (.error { root := "unknown order #1 on Y-BTC" }) := by
        decide +kernel
      rw [answer] at told
      exact Option.some.inj told
    exact ⟨l, rfl, created, resting, canceled, filled, distinct, kept, once, answered, _, answer,
      refused, failed _ _ _ _ answer refused⟩

end Ledger

end QuoteKeeper
