import QuoteKeeper.Proofs.Venue.Serving
import QuoteKeeper.Rehearsal.Channel

/-!
# What becomes of fills that are offered

Of the fills that are offered a channel takes the longest beginning that there is room for, and
none if it is closed; the others are dropped. What the venue fills, and what it pays for it, has
nothing to do with the channel.
-/

namespace QuoteKeeper

namespace Channel

/-- How many more fills the channel takes. -/
def free (c : Channel) : Nat := if c.isClosed then 0 else c.room - c.fills.length

/-- The fills that the channel does not take if it is offered some in order. -/
def refused (c : Channel) : List Fill → List Fill
  | [] => []
  | f :: rest =>
    match c.offer f with
    | .ok c => c.refused rest
    | .error _ => f :: c.refused rest

theorem offer_full {c : Channel} (full : c.free = 0) (f : Fill) :
    ∃ why, c.offer f = .error why := by
  rw [free] at full
  rw [offer]
  split
  next => exact ⟨_, rfl⟩
  next isOpen =>
    rw [if_neg isOpen] at full
    rw [if_neg (by omega)]
    exact ⟨_, rfl⟩

theorem offer_free {c : Channel} {n : Nat} (room : c.free = n + 1) (f : Fill) :
    c.offer f = .ok { c with fills := c.fills ++ [f] } ∧
      free { c with fills := c.fills ++ [f] } = n := by
  rw [free] at room
  split at room
  next => exact absurd room (Nat.zero_ne_add_one n)
  next isOpen =>
    have less : c.room - (c.fills.length + 1) = n := by omega
    rw [offer, free, if_neg isOpen, if_neg isOpen, if_pos (by omega), List.length_append,
      List.length_singleton]
    exact ⟨rfl, less⟩

/-- A channel takes the beginning of what it is offered, as much as there is room for. -/
theorem offerAll_taken (c : Channel) (fills : List Fill) :
    (c.offerAll fills).1 = { c with fills := c.fills ++ fills.take c.free } := by
  induction fills generalizing c with
  | nil => rw [List.take_nil, List.append_nil]; rfl
  | cons f fills ih =>
    rw [offerAll]
    cases room : c.free with
    | zero =>
      obtain ⟨why, offered⟩ := offer_full room f
      rw [offered, List.take_zero]
      have rest := ih c
      rw [room, List.take_zero] at rest
      exact rest
    | succ n =>
      obtain ⟨offered, left⟩ := offer_free room f
      rw [offered, List.take_succ_cons]
      dsimp only
      rw [ih, left, List.append_assoc, List.singleton_append]

/-- And all the rest is dropped. -/
theorem refused_eq (c : Channel) (fills : List Fill) : c.refused fills = fills.drop c.free := by
  induction fills generalizing c with
  | nil => rw [List.drop_nil]; rfl
  | cons f fills ih =>
    rw [refused]
    cases room : c.free with
    | zero =>
      obtain ⟨why, offered⟩ := offer_full room f
      rw [offered, List.drop_zero]
      dsimp only
      rw [ih, room, List.drop_zero]
    | succ n =>
      obtain ⟨offered, left⟩ := offer_free room f
      rw [offered, List.drop_succ_cons]
      dsimp only
      rw [ih, left]

end Channel

namespace Rehearsal

/-- The venue fills the same and pays the same, whatever becomes of its fills. -/
theorem matchOrders_venue (r : Rehearsal) (channel : Option Channel) :
    (r.matchOrders channel).map (fun out => (out.1, out.2.2.venue)) = r.venue.fillCrossed := by
  rw [matchOrders]
  cases r.venue.fillCrossed with
  | error e => rfl
  | ok filled =>
    cases channel with
    | none => rfl
    | some c => rfl

/-- The venue breaks down over the same, whatever the channel. -/
theorem matchOrders_breaks {r : Rehearsal} {channel : Option Channel} {e : Overflow}
    (breaks : r.matchOrders channel = .error e) : r.venue.fillCrossed = .error e := by
  rw [← r.matchOrders_venue channel, breaks]
  rfl

/-- What filling orders does to the venue and to the channel. -/
theorem matchOrders_done {r r' : Rehearsal} {c c' : Channel} {fills : List Fill}
    (done : r.matchOrders (some c) = .ok (fills, some c', r')) :
    r.venue.fillCrossed = .ok (fills, r'.venue) ∧
      c' = { c with fills := c.fills ++ fills.take c.free } := by
  obtain ⟨⟨filled, venue⟩, crossed, ends⟩ := Overflow.bind_eq_ok_iff.mp done
  obtain ⟨rfl, others⟩ := Prod.mk.inj (Except.ok.inj ends)
  obtain ⟨offered, rfl⟩ := Prod.mk.inj others
  exact ⟨crossed, (Option.some.inj offered).symm.trans (c.offerAll_taken filled)⟩

end Rehearsal

end QuoteKeeper
