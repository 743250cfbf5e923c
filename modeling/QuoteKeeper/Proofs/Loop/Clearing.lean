import QuoteKeeper.Proofs.Loop.Ending
import QuoteKeeper.Proofs.Rehearsal.Faultless
import QuoteKeeper.Proofs.Venue.Faltering
import QuoteKeeper.Rehearsal.Run

/-!
# Every order on the list is canceled

The resting orders are listed once, and each of them gets one cancel call in its turn, whatever its
pair and whatever becomes of the other calls. At the paper venue every cancel takes an order away
while the list is being worked through; still none is missed, and what rests afterwards are the
orders whose cancel failed, in their order. The keeper itself stays as it is.
-/

namespace QuoteKeeper

open Dialogue

namespace Keeper

/-- Calls that cancel some orders, one for each and in their order: the orders that are kept, since
their call fails, and those that are gone. -/
inductive Cleared : List RestingOrder → List Exchange → List RestingOrder → List RestingOrder → Prop
  | nil : Cleared [] [] [] []
  | gone {o : RestingOrder} {orders kept gone : List RestingOrder} {calls : List Exchange}
      (rest : Cleared orders calls kept gone) :
      Cleared (o :: orders) (⟨.cancel o.pair o.id, .ok ()⟩ :: calls) kept (o :: gone)
  | kept {o : RestingOrder} {orders kept gone : List RestingOrder} {calls : List Exchange}
      (e : CallError) (rest : Cleared orders calls kept gone) :
      Cleared (o :: orders) (⟨.cancel o.pair o.id, .error e⟩ :: calls) (o :: kept) gone

/-- Every cancel call that is made for an order goes through or fails. -/
theorem exists_cleared {orders : List RestingOrder} {calls : List Exchange}
    (each : calls.map (·.1) = orders.map (·.cancelCall)) :
    ∃ kept gone, Cleared orders calls kept gone ∧ gone.length = calls.countP wentThrough := by
  induction orders generalizing calls with
  | nil =>
    obtain rfl := List.map_eq_nil_iff.mp each
    exact ⟨[], [], .nil, rfl⟩
  | cons o orders ih =>
    obtain ⟨x, calls, rfl, called, others⟩ := List.map_eq_cons_iff.mp each
    obtain ⟨kept, gone, rest, count⟩ := ih others
    obtain ⟨c, r⟩ := x
    obtain rfl : c = .cancel o.pair o.id := called
    cases r with
    | ok u =>
      refine ⟨kept, o :: gone, .gone rest, ?_⟩
      rw [List.length_cons, count, List.countP_cons_of_pos rfl]
    | error e => exact ⟨o :: kept, gone, .kept e rest, count⟩

/-- Whichever of the calls fail. -/
theorem Cleared.goes {orders kept gone : List RestingOrder} {calls : List Exchange}
    (cleared : Cleared orders calls kept gone) : Goes (cancelEach orders) calls gone.length := by
  induction cleared with
  | nil => exact goes_pure 0
  | @gone o orders kept gone calls rest ih =>
    have cancels : Goes (Batch.cancel o .shutdown) [⟨.cancel o.pair o.id, .ok ()⟩] (.ok ()) :=
      .log (.call (c := .cancel o.pair o.id) (.ok ()) (goes_pure _))
    exact cancels.bind (.last (f := fun n => n + 1) ih)
  | @kept o orders kept gone calls e rest ih =>
    have cancels : Goes (Batch.cancel o .shutdown) [⟨.cancel o.pair o.id, .error e⟩]
        (.error (.venueCall "cancel" e)) :=
      .log (.call (c := .cancel o.pair o.id) (.error e) (.log (goes_pure _)))
    exact cancels.bind (.last (f := fun n => n) ih)

/-- The ways in which all orders can be canceled. -/
theorem goes_cancelAll_iff {calls : List Exchange} {n : Nat} : Goes cancelAll calls n ↔
    (∃ e, calls = [⟨.openOrders, .error e⟩] ∧ n = 0) ∨
      ∃ orders cancels kept gone, calls = ⟨.openOrders, .ok orders⟩ :: cancels ∧
        Cleared orders cancels kept gone ∧ n = gone.length := by
  constructor
  · rintro ⟨t, path, rfl⟩
    rcases cancelAll_calls path with refused | ⟨orders, cancels, made, each, count⟩
    · exact .inl refused
    · obtain ⟨kept, gone, cleared, through⟩ := exists_cleared each
      exact .inr ⟨orders, cancels, kept, gone, made, cleared, count.trans through.symm⟩
  · rintro (⟨e, rfl, rfl⟩ | ⟨orders, cancels, kept, gone, rfl, cleared, rfl⟩)
    · exact .call (.error e) (.log (goes_pure 0))
    · refine Goes.call (c := .openOrders) (.ok orders) (.log ?_)
      rw [← List.append_nil cancels]
      refine cleared.goes.bind ?_
      dsimp only
      split
      · exact .log (goes_pure _)
      · exact .log (goes_pure _)

end Keeper

/-! ### At the paper venue -/

/-- Of the orders that are canceled one after the other, those stay whose cancel fails. -/
theorem Keeper.Cleared.leaves {orders kept gone : List RestingOrder} {calls : List Exchange}
    (cleared : Cleared orders calls kept gone) {before : List RestingOrder} {v w : Paper}
    (rests : v.orders = before ++ orders) (ids : (v.orders.map (·.id)).Nodup)
    (falters : v.Falters calls w) :
    w.orders = before ++ kept ∧ w.canceled = v.canceled ++ gone.map (·.id) := by
  induction cleared generalizing before v with
  | nil =>
    obtain ⟨same, canceled⟩ := falters.of_nil
    exact ⟨same.trans rests, by rw [canceled, List.map_nil, List.append_nil]⟩
  | @gone o orders kept gone calls rest ih =>
    obtain ⟨u, answered, ⟨same, canceled⟩, serve, -, later⟩ := falters.of_ok
    obtain rfl := Except.ok.inj serve
    rw [← same] at rests ids
    obtain ⟨left, listed⟩ := Paper.cancel_between rests ids
    have fewer : ((u.cancel o.pair o.id).venue.orders.map (·.id)).Nodup :=
      ids.sublist ((Paper.cancel_sublist u o.pair o.id).map _)
    obtain ⟨stays, added⟩ := ih left fewer later
    refine ⟨stays, ?_⟩
    rw [added, listed, canceled, List.append_assoc]
    rfl
  | @kept o orders kept gone calls e rest ih =>
    obtain ⟨u, ⟨same, canceled⟩, later⟩ := falters.of_error
    rw [← same, List.append_cons] at rests
    rw [← same] at ids
    obtain ⟨stays, added⟩ := ih rests ids later
    exact ⟨by rw [stays, ← List.append_cons], by rw [added, canceled]⟩

/-! ### In a rehearsal -/

/-- The only calls are for orders, books and cancels. -/
def Dialogue.Simple {α : Type} (d : Dialogue α) : Prop :=
  ∀ (t : Transcript) (a : α), Path d t a →
    ∀ x ∈ t.calls, x.1.kind ∈ [.openOrders, .topOfBook, .cancel]

theorem Dialogue.Simple.next {α : Type} {a : Act} {next : a.Answer → Dialogue α}
    (simple : Simple (act a next)) (r : a.Answer) : Simple (next r) := by
  intro t b path x member
  refine simple _ b (.act path) x ?_
  rw [← List.singleton_append, Transcript.calls_append]
  exact List.mem_append_right _ member

theorem Keeper.cancelAll_simple : Simple cancelAll := by
  intro t n path x member
  rcases cancelAll_kinds path x member with lists | cancels
  · simp [lists]
  · simp [cancels]

namespace Rehearsal

theorem cutShort_other {c : Call} (other : c.kind ≠ .budgetAdjust) (n : Nat) (reply : c.Reply) :
    cutShort n c reply = reply := by
  cases c with
  | budgetAdjust batch allOrNone => exact absurd rfl other
  | topOfBook | openOrders | balance | cancel | place => rfl

/-- Calls for orders, books and cancels come back, failed or answered. -/
theorem call_simple (r : Rehearsal) {c : Call}
    (simple : c.kind ∈ [.openOrders, .topOfBook, .cancel]) :
    ∃ reply r', r.call c = (.ok reply, r') ∧
      (((∃ e, reply = .error e) ∧ r'.venue = r.venue) ∨
        ∃ answered, r.venue.answer c = .ok answered ∧ reply = answered.reply ∧
          r'.venue = answered.venue) := by
  have uncut : c.kind ≠ .budgetAdjust := by
    intro same
    rw [same] at simple
    exact absurd simple (by decide)
  obtain ⟨answered, answer⟩ := r.venue.answer_simple simple
  rw [Rehearsal.call]
  dsimp only
  split
  · exact ⟨_, _, rfl, .inl ⟨⟨_, rfl⟩, countDown_venue _ _⟩⟩
  · rw [countDown_venue, answer]
    exact ⟨_, _, rfl, .inr ⟨answered, rfl, cutShort_other uncut _ _, rfl⟩⟩

/-- A dialogue with no other calls comes to its end, whatever the script. -/
theorem falters {α : Type} {d : Dialogue α} (simple : d.Simple) (r : Rehearsal) :
    (∃ a, (d.run world r).1 = .ok a) ∧
      r.venue.Falters (d.transcript world r).calls (d.run world r).2.venue := by
  induction d generalizing r with
  | done a => exact ⟨⟨a, rfl⟩, .nil _⟩
  | act a next ih =>
    have later := fun reply => ih reply (simple.next reply)
    rw [transcript, Dialogue.run]
    cases a with
    | call c =>
      -- Some path begins with this call, so that its kind is known.
      obtain ⟨t, b, path⟩ := exists_path (next (.error { root := "" }))
      have here := simple _ b (.act path) _ List.mem_cons_self
      obtain ⟨reply, r', called, ⟨⟨e, rfl⟩, venue⟩ | ⟨answered, answer, rfl, venue⟩⟩ :=
        call_simple r here
      · obtain ⟨ends, goesOn⟩ := later (.error e) r'
        simp only [world, called]
        exact ⟨ends, .fault e (venue ▸ goesOn)⟩
      · obtain ⟨ends, goesOn⟩ := later answered.reply r'
        simp only [world, called]
        exact ⟨ends, .answered answer (venue ▸ goesOn)⟩
    | notify n => exact later _ (r.notify n).2
    | feedRunning => exact later _ { r with feed.asked := r.feed.asked + 1 }
    | startFeed =>
      exact later _ { r with feed.running := true, feed.starts := r.feed.starts + 1 }
    | stopFeed =>
      exact later _ { r with feed.running := false, feed.stops := r.feed.stops + 1 }
    | reference p => exact later _ r
    | log line => exact later _ (r.write [line])

end Rehearsal

/-- A dialogue that comes to its end changes nothing in a run but the rehearsal. -/
theorem Run.converse_ok {α : Type} {d : Dialogue α} {s : Run} {a : α}
    (ended : (d.run Rehearsal.world s.rehearsal).1 = .ok a) :
    s.converse d = .ok (a, { s with rehearsal := (d.run Rehearsal.world s.rehearsal).2 }) := by
  rw [Run.converse, Rehearsal.converse]
  change (d.run Rehearsal.world s.rehearsal).1.map _ = _
  rw [ended]
  rfl

namespace Keeper

/-- Canceling all orders lists them and, if the list fails, does nothing more. Otherwise it makes
one cancel call for each order on the list, in its order, and comes to the number of those that go
through; any of them can fail. At a paper venue with distinct ids, where any call can fail at any
time, the orders on the list are all that rest; those that rest afterwards are the ones whose
cancel failed, and the others have been added to the canceled ones, each in their order. A
rehearsal of it comes to its end, and the keeper is the same as before. -/
theorem cancelAll_thorough :
    (∀ (calls : List Exchange) (n : Nat), Goes cancelAll calls n ↔
      (∃ e, calls = [⟨.openOrders, .error e⟩] ∧ n = 0) ∨
        ∃ orders cancels kept gone, calls = ⟨.openOrders, .ok orders⟩ :: cancels ∧
          Cleared orders cancels kept gone ∧ n = gone.length) ∧
    (∀ (v w : Paper) (calls : List Exchange) (n : Nat), (v.orders.map (·.id)).Nodup →
      Goes cancelAll calls n → v.Falters calls w →
        (∃ e, calls = [⟨.openOrders, .error e⟩] ∧ n = 0 ∧ v.SameOrders w) ∨
          ∃ cancels gone, calls = ⟨.openOrders, .ok v.orders⟩ :: cancels ∧
            Cleared v.orders cancels w.orders gone ∧ n = gone.length ∧
            w.canceled = v.canceled ++ gone.map (·.id)) ∧
    ∀ s : Run, ∃ n s', s.converse cancelAll = .ok (n, s') ∧ s'.keeper = s.keeper ∧
      Goes cancelAll (cancelAll.transcript Rehearsal.world s.rehearsal).calls n ∧
      s.rehearsal.venue.Falters (cancelAll.transcript Rehearsal.world s.rehearsal).calls
        s'.rehearsal.venue := by
  refine ⟨fun calls n => goes_cancelAll_iff, ?_, ?_⟩
  · intro v w calls n ids goes falters
    rcases goes_cancelAll_iff.mp goes with
      ⟨e, rfl, rfl⟩ | ⟨orders, cancels, kept, gone, rfl, cleared, rfl⟩
    · obtain ⟨u, ⟨orders, canceled⟩, later⟩ := falters.of_error
      have same := later.of_nil
      exact .inl ⟨e, rfl, rfl, same.orders.trans orders, same.canceled.trans canceled⟩
    · obtain ⟨u, answered, ⟨same, canceled⟩, serve, reply, later⟩ := falters.of_ok
      obtain rfl := Except.ok.inj serve
      obtain rfl : u.orders = orders := Except.ok.inj reply
      rw [← same] at ids
      have whole : u.orders = [] ++ u.orders := rfl
      obtain ⟨stay, added⟩ := cleared.leaves whole ids later
      rw [← same, ← canceled]
      exact .inr ⟨cancels, gone, rfl, stay ▸ cleared, rfl, added⟩
  · intro s
    obtain ⟨⟨n, ended⟩, served⟩ := Rehearsal.falters cancelAll_simple s.rehearsal
    exact ⟨n, _, Run.converse_ok ended, rfl, ⟨_, path_transcript ended, rfl⟩, served⟩

/-- A run with three orders, of which the second is on a pair that nobody trades. The second cancel
call fails. -/
def mixedRun : Run where
  rehearsal :=
    { venue :=
        { orders :=
            [{ id := "#1", pair := ⟨"X", "BTC"⟩, side := .buy, price := 0.0009, amount := 1.0 },
              { id := "#2", pair := ⟨"Q", "ETH"⟩, side := .sell, price := 0.02, amount := 1.0 },
              { id := "#3", pair := ⟨"X", "BTC"⟩, side := .sell, price := 0.0012, amount := 5.0 }]
          issued := 3 }
      script := ⟨[(.cancel, 2)]⟩ }
  keeper := small
  inbox := { room := 64 }

/-- The second order stays, and the two others are canceled. -/
theorem cancelAll_thorough_mixed : (mixedRun.rehearsal.venue.orders.map (·.id)).Nodup ∧
    ∃ s' cancels gone, mixedRun.converse cancelAll = .ok (2, s') ∧ s'.keeper = small ∧
      s'.rehearsal.venue.orders.map (·.id) = ["#2"] ∧
      Cleared mixedRun.rehearsal.venue.orders cancels s'.rehearsal.venue.orders gone ∧
      gone.length = 2 ∧ s'.rehearsal.venue.canceled = gone.map (·.id) := by
  have ids : (mixedRun.rehearsal.venue.orders.map (·.id)).Nodup := by
    decide
  have results : (mixedRun.converse cancelAll).toOption.map (fun result =>
      (result.1, result.2.rehearsal.venue.orders.map (·.id))) = some (2, ["#2"]) := by
    decide +kernel
  obtain ⟨-, atVenue, runs⟩ := cancelAll_thorough
  obtain ⟨n, s', ended, same, goes, falters⟩ := runs mixedRun
  rw [ended] at results
  obtain ⟨rfl, left⟩ := Prod.mk.inj (Option.some.inj results)
  rcases atVenue _ _ _ _ ids goes falters with
    ⟨e, -, nothing, -⟩ | ⟨cancels, gone, -, cleared, count, listed⟩
  · cases nothing
  · exact ⟨ids, s', cancels, gone, ended, same, left, cleared, count.symm, listed⟩

end Keeper

end QuoteKeeper
