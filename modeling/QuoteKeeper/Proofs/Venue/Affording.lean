import QuoteKeeper.Proofs.Venue.Answering

/-!
# What a venue affords

A candidate that the venue affords by itself passes the check of the budget and is placed. An order
locks nothing of another currency than the one it needs, so candidates that need different
currencies do not stand in each other's way, neither in the check nor when they are placed one after
the other.
-/

namespace QuoteKeeper

open Decimal

/-- The currency that an order on a side of the pair needs. -/
def Pair.currency (p : Pair) : Side → String
  | .buy => p.quote
  | .sell => p.base

theorem Pair.currency_injective {p : Pair} (apart : p.base ≠ p.quote) :
    Function.Injective p.currency := by
  intro a b same
  cases a with
  | buy => cases b with
    | buy => rfl
    | sell => exact absurd same.symm apart
  | sell => cases b with
    | buy => exact absurd same apart
    | sell => rfl

/-- The currency that a candidate needs. -/
def Candidate.currency (c : Candidate) : String := c.pair.currency c.side

namespace Paper

/-- The candidate has a positive price and amount, and what it needs is available. -/
structure Affords (v : Paper) (c : Candidate) : Prop where
  price_pos : 0 < c.price.value
  amount_pos : 0 < c.amount.value
  enough : ∃ needed free, requirement c = .ok (c.currency, needed) ∧
    v.available c.currency = .ok free ∧ needed.value ≤ free.value

/-- Each of the candidates is taken when they are placed in order. -/
def PlacesAll (v : Paper) : List Candidate → Prop
  | [] => True
  | c :: cs =>
    ∃ id answered, v.answer (.place c) = .ok answered ∧ answered.reply = .ok id ∧
      answered.venue.PlacesAll cs

/-- Nothing available is less than nothing. -/
theorem available_nonneg {v : Paper} {currency : String} {free : Decimal}
    (found : v.available currency = .ok free) : 0 ≤ free.value := by
  obtain ⟨locked, -, subtracts⟩ := Overflow.bind_eq_ok_iff.mp found
  obtain ⟨left, -, ends⟩ := Overflow.bind_eq_ok_iff.mp subtracts
  obtain rfl := Except.ok.inj ends
  rw [max_value, value_zero]
  exact le_max_right _ _

/-! ### The budget -/

/-- Candidates that are affordable each, in different currencies, are affordable together. -/
theorem affordable_whole {v : Paper} {cs : List Candidate} (affords : ∀ c ∈ cs, v.Affords c)
    (distinct : (cs.map (·.currency)).Nodup) {spent : Table String Decimal}
    (unspent : ∀ c ∈ cs, spent.get? c.currency = none) :
    v.affordable spent cs = .ok (.ok cs) := by
  induction cs generalizing spent with
  | nil => rfl
  | cons c cs ih =>
    obtain ⟨here, others⟩ := List.forall_mem_cons.mp affords
    obtain ⟨fresh, later⟩ := List.forall_mem_cons.mp unspent
    rw [List.map_cons, List.nodup_cons] at distinct
    obtain ⟨needed, free, required, found, enough⟩ := here.enough
    have rest : v.affordable (spent.set c.currency needed) cs = .ok (.ok cs) := by
      refine ih others distinct.2 fun d member => ?_
      have different : c.currency ≠ d.currency := fun same =>
        distinct.1 (same ▸ List.mem_map_of_mem member)
      rw [Table.get?_set, if_neg different]
      exact later d member
    have less : ¬ free < needed := by
      rw [lt_iff_value, not_lt]
      exact enough
    rw [affordable, required]
    refine Overflow.bind_eq_ok_iff.mpr ⟨needed, by rw [fresh]; rfl, ?_⟩
    refine Overflow.bind_eq_ok_iff.mpr ⟨free, found, ?_⟩
    rw [if_neg less]
    exact Overflow.bind_eq_ok_iff.mpr ⟨.ok cs, rest, rfl⟩

theorem adjust_affords {v : Paper} {cs : List Candidate} (affords : ∀ c ∈ cs, v.Affords c)
    (distinct : (cs.map (·.currency)).Nodup) : v.adjust cs true = .ok (.ok cs) := by
  refine Overflow.bind_eq_ok_iff.mpr
    ⟨.ok cs, affordable_whole affords distinct fun _ _ => rfl, ?_⟩
  simp [Except.map, pure, Except.pure]

theorem answer_affords {v : Paper} (working : v.failing = []) {cs : List Candidate}
    (affords : ∀ c ∈ cs, v.Affords c) (distinct : (cs.map (·.currency)).Nodup) :
    v.answer (.budgetAdjust cs true) = .ok { reply := .ok cs, venue := v } := by
  rw [answer_working working]
  exact Overflow.bind_eq_ok_iff.mpr ⟨_, adjust_affords affords distinct, rfl⟩

/-! ### Placing -/

theorem not_rejected {c : Candidate} (pricePos : 0 < c.price.value)
    (amountPos : 0 < c.amount.value) : ¬ (c.price ≤ zero ∨ c.amount ≤ zero) := by
  rw [le_iff_value, le_iff_value, value_zero, not_or, not_le, not_le]
  exact ⟨pricePos, amountPos⟩

theorem place_affords {v : Paper} (working : v.failing = []) {c : Candidate}
    (affords : v.Affords c) : ∃ id answered, v.answer (.place c) = .ok answered ∧
      answered.reply = .ok id ∧ answered.venue = (v.rest c).2 := by
  obtain ⟨needed, free, required, found, enough⟩ := affords.enough
  have positive := not_rejected affords.price_pos affords.amount_pos
  have less : ¬ free < needed := by
    rw [lt_iff_value, not_lt]
    exact enough
  have placed : v.place c = .ok {
      reply := .ok (v.rest c).1
      venue := (v.rest c).2
      lines :=
        [.info s!"📝 [PAPER] {c.side} {c.amount} {c.pair}@{c.price} id={(v.rest c).1}"] } := by
    rw [place, if_neg positive, required]
    refine Overflow.bind_eq_ok_iff.mpr ⟨free, found, ?_⟩
    rw [if_neg less]
    rfl
  exact ⟨_, _, (answer_working working _).trans placed, rfl, rfl⟩

/-- Orders on top of others add to what those lock, if that can be computed. -/
theorem lockedFrom_append (currency : String) (sum : Decimal) (orders more : List RestingOrder) :
    lockedFrom currency sum (orders ++ more) = (do
      lockedFrom currency (← lockedFrom currency sum orders) more) := by
  induction orders generalizing sum with
  | nil => rfl
  | cons o orders ih =>
    rw [List.cons_append, lockedFrom, lockedFrom]
    cases lockedBy currency o with
    | error e => rfl
    | ok needed =>
      change sum.add needed >>= (lockedFrom currency · (orders ++ more)) =
        (sum.add needed >>= (lockedFrom currency · orders)) >>= (lockedFrom currency · more)
      cases sum.add needed with
      | error e => rfl
      | ok total => exact ih total

/-- An order locks nothing of a currency that it does not need. -/
theorem lockedBy_other {c : Candidate} {currency : String} (different : c.currency ≠ currency)
    (id : OrderId) : lockedBy currency (c.rest id) = .ok zero := by
  rw [Candidate.currency] at different
  rw [lockedBy]
  cases side : c.side with
  | buy =>
    rw [side, Pair.currency] at different
    simp only [Candidate.rest, side]
    rw [if_neg different]
  | sell =>
    rw [side, Pair.currency] at different
    simp only [Candidate.rest, side]
    rw [if_neg different]

/-- Adding nothing leaves the sum, up to the way in which a zero is written. -/
theorem add_nothing (a : Decimal) : a.add zero = .ok (if a.isZero then zero else a) := by
  rw [Decimal.add, add?]
  by_cases nothing : a.isZero = true
  · simp only [nothing, if_true]
  · simp only [nothing]
    rfl

/-- Taking away nothing leaves the number, whatever way the zero is written. -/
theorem sub_isZero {a b : Decimal} (nothing : b.isZero = true) :
    ∃ c, a.sub b = .ok c ∧ c.value = a.value := by
  rw [Decimal.sub, sub?]
  by_cases both : (a.isZero && b.isZero) = true
  · rw [if_pos both]
    refine ⟨b, rfl, ?_⟩
    rw [value_of_isZero nothing, value_of_isZero (Bool.and_eq_true_iff.mp both).1]
  · rw [if_neg both, add?]
    have some : ¬ a.isZero = true := fun zero => both (Bool.and_eq_true_iff.mpr ⟨zero, nothing⟩)
    have still : b.neg.isZero = true := nothing
    rw [if_neg some, if_pos still]
    exact ⟨a, rfl, rfl⟩

/-- With nothing resting every balance can be read. -/
theorem available_fresh {v : Paper} (fresh : v.orders = []) (currency : String) :
    ∃ free, v.available currency = .ok free := by
  have nothing : v.locked currency = .ok zero := by
    rw [locked, fresh]
    rfl
  obtain ⟨left, taken, -⟩ := sub_isZero (a := v.balance currency) (b := zero) rfl
  exact ⟨_, Overflow.bind_eq_ok_iff.mpr
    ⟨zero, nothing, Overflow.bind_eq_ok_iff.mpr ⟨left, taken, rfl⟩⟩⟩

/-- What is available of a currency is not touched by an order that needs another one. -/
theorem rest_available {v : Paper} {c : Candidate} {currency : String} {free : Decimal}
    (different : c.currency ≠ currency) (found : v.available currency = .ok free) :
    ∃ left, (v.rest c).2.available currency = .ok left ∧ left.value = free.value := by
  obtain ⟨locked, locks, subtracts⟩ := Overflow.bind_eq_ok_iff.mp found
  obtain ⟨rest, taken, ends⟩ := Overflow.bind_eq_ok_iff.mp subtracts
  obtain rfl := Except.ok.inj ends
  have still : (v.rest c).2.locked currency = .ok (if locked.isZero then zero else locked) := by
    change lockedFrom currency zero (v.orders ++ [c.rest (idAfter v.issued)]) = _
    rw [lockedFrom_append]
    change (v.locked currency >>= (lockedFrom currency · [c.rest (idAfter v.issued)])) = _
    rw [locks]
    change lockedFrom currency locked [c.rest (idAfter v.issued)] = _
    rw [lockedFrom, lockedBy_other different]
    change locked.add zero >>= (lockedFrom currency · []) = _
    rw [add_nothing]
    rfl
  have balance : (v.rest c).2.balance currency = v.balance currency := rfl
  by_cases nothing : locked.isZero = true
  · rw [if_pos nothing] at still
    obtain ⟨same, taken', value⟩ := sub_isZero (a := v.balance currency) nothing
    obtain ⟨left, found', value'⟩ := sub_isZero (a := v.balance currency) (b := zero) rfl
    obtain rfl := Except.ok.inj (taken'.symm.trans taken)
    refine ⟨left.max zero, Overflow.bind_eq_ok_iff.mpr
      ⟨zero, still, Overflow.bind_eq_ok_iff.mpr ⟨left, found', rfl⟩⟩, ?_⟩
    rw [max_value, max_value, value, value']
  · rw [if_neg nothing] at still
    exact ⟨_, Overflow.bind_eq_ok_iff.mpr
      ⟨locked, still, Overflow.bind_eq_ok_iff.mpr ⟨rest, taken, rfl⟩⟩, rfl⟩

theorem Affords.rest {v : Paper} {c d : Candidate} (affords : v.Affords d)
    (different : c.currency ≠ d.currency) : (v.rest c).2.Affords d := by
  obtain ⟨needed, free, required, found, enough⟩ := affords.enough
  obtain ⟨left, found', same⟩ := rest_available different found
  exact ⟨affords.price_pos, affords.amount_pos, needed, left, required, found', same ▸ enough⟩

/-- Candidates that are affordable each, in different currencies, are all taken in order. -/
theorem placesAll_affords {v : Paper} (working : v.failing = []) {cs : List Candidate}
    (affords : ∀ c ∈ cs, v.Affords c) (distinct : (cs.map (·.currency)).Nodup) :
    v.PlacesAll cs := by
  induction cs generalizing v with
  | nil => trivial
  | cons c cs ih =>
    obtain ⟨here, others⟩ := List.forall_mem_cons.mp affords
    rw [List.map_cons, List.nodup_cons] at distinct
    obtain ⟨id, answered, answer, taken, venue⟩ := place_affords working here
    refine ⟨id, answered, answer, taken, ?_⟩
    rw [venue]
    refine ih working (fun d member => ?_) distinct.2
    have different : c.currency ≠ d.currency := fun same =>
      distinct.1 (same ▸ List.mem_map_of_mem member)
    exact (others d member).rest different

end Paper

end QuoteKeeper
