import QuoteKeeper.Proofs.Venue.Conservation

/-!
# A venue whose calls fail now and then

Nothing happens to the venue but its calls, and any of these can fail, at the venue or on the way to
it. A call that fails changes nothing. A cancel that goes through takes away the one order that it
names.
-/

namespace QuoteKeeper

namespace Paper

/-- The venue from one state to another with calls that it answers or that fail before they get
there, with faults that come and go, and nothing else. -/
inductive Falters : Paper → List Exchange → Paper → Prop
  | nil (v : Paper) : Falters v [] v
  | answered {v w : Paper} {c : Call} {answered : Answered c.Answer} {calls : List Exchange}
      (answer : v.answer c = .ok answered) (later : Falters answered.venue calls w) :
      Falters v (⟨c, answered.reply⟩ :: calls) w
  | fault {v w : Paper} {c : Call} {calls : List Exchange} (e : CallError)
      (later : Falters v calls w) : Falters v (⟨c, .error e⟩ :: calls) w
  | toggled {v w : Paper} {calls : List Exchange} (kind : CallKind) (on : Bool)
      (later : Falters (v.setFailing kind on) calls w) : Falters v calls w

/-- Neither of the two has an order or a cancel that the other has not. -/
structure SameOrders (v w : Paper) : Prop where
  orders : w.orders = v.orders
  canceled : w.canceled = v.canceled

namespace Falters

variable {v w : Paper} {c : Call} {calls : List Exchange}

theorem of_nil (falters : Falters v [] w) : v.SameOrders w := by
  generalize none_ : ([] : List Exchange) = calls at falters
  induction falters with
  | nil v => exact ⟨rfl, rfl⟩
  | answered | fault => cases none_
  | toggled kind on later ih => exact ⟨(ih none_).orders, (ih none_).canceled⟩

/-- A call that fails changes nothing, wherever it fails. -/
theorem of_error {e : CallError} (falters : Falters v (⟨c, .error e⟩ :: calls) w) :
    ∃ u, v.SameOrders u ∧ u.Falters calls w := by
  generalize whole : (⟨c, .error e⟩ :: calls : List Exchange) = made at falters
  induction falters with
  | nil v => cases whole
  | @answered v w d answered rest answer later ih =>
    obtain ⟨first, rfl⟩ := List.cons.inj whole
    obtain ⟨rfl, reply⟩ := Sigma.mk.inj first
    rw [answer_failed answer (eq_of_heq reply).symm] at later
    exact ⟨v, ⟨rfl, rfl⟩, later⟩
  | fault e' later ih =>
    cases whole
    exact ⟨_, ⟨rfl, rfl⟩, later⟩
  | toggled kind on later ih =>
    obtain ⟨u, ⟨orders, canceled⟩, further⟩ := ih whole
    exact ⟨u, ⟨orders, canceled⟩, further⟩

/-- A call that goes through was served by the venue. -/
theorem of_ok {a : c.Answer} (falters : Falters v (⟨c, .ok a⟩ :: calls) w) :
    ∃ u answered, v.SameOrders u ∧ u.serve c = .ok answered ∧ answered.reply = .ok a ∧
      answered.venue.Falters calls w := by
  generalize whole : (⟨c, .ok a⟩ :: calls : List Exchange) = made at falters
  induction falters with
  | nil v => cases whole
  | @answered v w d answered rest answer later ih =>
    obtain ⟨first, rfl⟩ := List.cons.inj whole
    obtain ⟨rfl, reply⟩ := Sigma.mk.inj first
    have fine := (eq_of_heq reply).symm
    rcases answer_cases answer with ⟨-, e, failed⟩ | serve
    · cases failed.symm.trans fine
    · exact ⟨v, answered, ⟨rfl, rfl⟩, serve, fine, later⟩
  | fault e' later ih => cases whole
  | toggled kind on later ih =>
    obtain ⟨u, answered, ⟨orders, canceled⟩, serve, reply, further⟩ := ih whole
    exact ⟨u, answered, ⟨orders, canceled⟩, serve, reply, further⟩

end Falters

/-- An order that rests is canceled by its own call, and no other order is. -/
theorem cancel_between {v : Paper} {before after : List RestingOrder} {o : RestingOrder}
    (rests : v.orders = before ++ o :: after) (ids : (v.orders.map (·.id)).Nodup) :
    (v.cancel o.pair o.id).venue.orders = before ++ after ∧
      (v.cancel o.pair o.id).venue.canceled = v.canceled ++ [o.id] := by
  have others : before.findIdx? (fun x => decide (x.id = o.id) && decide (x.pair = o.pair)) =
      none := by
    rw [List.findIdx?_eq_none_iff]
    intro x member
    rw [rests, List.map_append, List.nodup_append] at ids
    have different : x.id ≠ o.id :=
      ids.2.2 _ (List.mem_map_of_mem member) _ (List.mem_map_of_mem List.mem_cons_self)
    simp [different]
  have found : v.orders.findIdx? (fun x => decide (x.id = o.id) && decide (x.pair = o.pair)) =
      some before.length := by
    simp [rests, List.findIdx?_append, others, List.findIdx?_cons]
  rw [cancel, found]
  refine ⟨?_, rfl⟩
  change v.orders.eraseIdx before.length = before ++ after
  rw [rests, List.eraseIdx_append_of_length_le (Nat.le_refl _), Nat.sub_self]
  rfl

end Paper

end QuoteKeeper
