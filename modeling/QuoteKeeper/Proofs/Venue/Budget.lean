import QuoteKeeper.Proofs.Venue.Affording
import QuoteKeeper.Proofs.Venue.Solvency

/-!
# The budget check and placing

The check of a budget adds up what the candidates need of each currency and compares that with what
is available at first. Placing the candidates one after the other compares what each one needs with
what is still available, after the orders that have come to rest by then. Both let the same
candidates through, also where more is locked than there is and what is available is cut at zero. If
what is locked cannot be computed, both break down.
-/

namespace QuoteKeeper

open Decimal

/-- Price and amount are above zero, and the value does not overflow. -/
structure Candidate.Payable (c : Candidate) : Prop where
  price_pos : zero < c.price
  amount_pos : zero < c.amount
  valued : c.notional?.isSome = true

instance (c : Candidate) : Decidable c.Payable :=
  decidable_of_iff (_ ∧ _ ∧ _)
    ⟨fun ⟨price, amount, valued⟩ => ⟨price, amount, valued⟩,
      fun ⟨price, amount, valued⟩ => ⟨price, amount, valued⟩⟩

namespace Candidate.Payable

variable {c : Candidate}

/-- What the candidate needs can be told. -/
theorem required (payable : c.Payable) :
    ∃ needed, Paper.requirement c = .ok (c.currency, needed) := by
  obtain ⟨value, computed⟩ := Option.isSome_iff_exists.mp payable.valued
  rw [Paper.requirement, Candidate.currency]
  cases c.side with
  | buy => exact ⟨value, by rw [computed]; rfl⟩
  | sell => exact ⟨c.amount, rfl⟩

theorem sound (payable : c.Payable) (id : OrderId) : (c.rest id).Sound where
  price_pos := value_pos_iff.mp payable.price_pos
  amount_pos := value_pos_iff.mp payable.amount_pos
  computed _ := Option.isSome_iff_exists.mp payable.valued

end Candidate.Payable

namespace Paper

/-- Place candidates one after the other, up to the first one that is refused: those that are
taken. -/
def placed (v : Paper) : List Candidate → Except Overflow (List Candidate)
  | [] => .ok []
  | c :: rest => do
    let answered ← v.answer (.place c)
    match answered.reply with
    | .error _ => return []
    | .ok _ => (c :: ·) <$> answered.venue.placed rest

/-! ### Sums that are exact -/

/-- What is available is exact whenever a candidate is placed, up to the first one that is
refused. -/
def ExactPlacing (v : Paper) : List Candidate → Prop
  | [] => True
  | c :: rest =>
    v.ExactAvailable c.currency ∧ ∀ answered ∈ (v.answer (.place c)).toOption,
      ∀ _id ∈ answered.reply.toOption, answered.venue.ExactPlacing rest

instance decidableExactPlacing :
    (v : Paper) → (cs : List Candidate) → Decidable (v.ExactPlacing cs)
  | _, [] => isTrue trivial
  | v, c :: rest =>
    have : ∀ u : Paper, Decidable (u.ExactPlacing rest) := fun u => decidableExactPlacing u rest
    inferInstanceAs (Decidable (v.ExactAvailable c.currency ∧
      ∀ answered ∈ (v.answer (.place c)).toOption,
        ∀ _id ∈ answered.reply.toOption, answered.venue.ExactPlacing rest))

/-- What is spent of a currency. -/
def spentOn (spent : Table String Decimal) (currency : String) : Decimal :=
  (spent.get? currency).getD zero

/-- What is available and the sums of what is spent are exact, up to the first candidate that cannot
be paid for. -/
def ExactSpending (v : Paper) (spent : Table String Decimal) : List Candidate → Prop
  | [] => True
  | c :: rest =>
    v.ExactAvailable c.currency ∧ ∀ required ∈ (requirement c).toOption,
      Exact ((spentOn spent c.currency).add? required.2)
        ((spentOn spent c.currency).value + required.2.value) ∧
      ∀ total ∈ (spentOn spent c.currency).add? required.2,
        ∀ free ∈ (v.available c.currency).toOption,
          ¬ free < total → v.ExactSpending (spent.set c.currency total) rest

instance decidableExactSpending (v : Paper) :
    (spent : Table String Decimal) → (cs : List Candidate) → Decidable (v.ExactSpending spent cs)
  | _, [] => isTrue trivial
  | spent, c :: rest =>
    have : ∀ spent, Decidable (v.ExactSpending spent rest) :=
      fun spent => decidableExactSpending v spent rest
    inferInstanceAs (Decidable (v.ExactAvailable c.currency ∧
      ∀ required ∈ (requirement c).toOption,
        Exact ((spentOn spent c.currency).add? required.2)
          ((spentOn spent c.currency).value + required.2.value) ∧
        ∀ total ∈ (spentOn spent c.currency).add? required.2,
          ∀ free ∈ (v.available c.currency).toOption,
            ¬ free < total → v.ExactSpending (spent.set c.currency total) rest))

/-! ### Placing -/

section Placing

variable {v : Paper} {c : Candidate} {needed free : Decimal}

theorem Affords.of_payable (payable : c.Payable)
    (required : requirement c = .ok (c.currency, needed))
    (found : v.available c.currency = .ok free) (enough : ¬ free < needed) : v.Affords c where
  price_pos := value_pos_iff.mp payable.price_pos
  amount_pos := value_pos_iff.mp payable.amount_pos
  enough := ⟨needed, free, required, found, le_iff_value.mp (le_of_not_lt enough)⟩

/-- A payable candidate is taken if what it needs is available, and otherwise it is the end. -/
theorem placed_cons (working : v.failing = []) (payable : c.Payable)
    (required : requirement c = .ok (c.currency, needed)) (cs : List Candidate) :
    v.placed (c :: cs) = (do
      let free ← v.available c.currency
      if free < needed then
        return []
      else
        (c :: ·) <$> (v.rest c).2.placed cs) := by
  have positive :=
    not_rejected (value_pos_iff.mp payable.price_pos) (value_pos_iff.mp payable.amount_pos)
  rw [placed, answer_working working, serve, place, if_neg positive, required]
  dsimp only
  cases v.available c.currency with
  | error e => rfl
  | ok free =>
    by_cases less : free < needed
    · change (if free < needed then _ else _) >>= _ = if free < needed then _ else _
      rw [if_pos less, if_pos less]
      rfl
    · change (if free < needed then _ else _) >>= _ = if free < needed then _ else _
      rw [if_neg less, if_neg less]
      rfl

theorem ExactPlacing.rest {cs : List Candidate} (exactly : v.ExactPlacing (c :: cs))
    (working : v.failing = []) (affords : v.Affords c) : (v.rest c).2.ExactPlacing cs := by
  obtain ⟨id, answered, answer, taken, venue⟩ := place_affords working affords
  have later := exactly.2 answered (by rw [answer]; rfl) id (by rw [taken]; rfl)
  rwa [venue] at later

/-- Either the first candidate is refused, and then no other one is tried, or it is taken. -/
theorem placed_cases {cs taken : List Candidate} (found : v.placed (c :: cs) = .ok taken) :
    ∃ answered, v.answer (.place c) = .ok answered ∧
      ((∃ e, answered.reply = .error e) ∧ taken = [] ∨
        ∃ id others, answered.reply = .ok id ∧ answered.venue.placed cs = .ok others ∧
          taken = c :: others) := by
  obtain ⟨answered, answer, ends⟩ := Overflow.bind_eq_ok_iff.mp found
  refine ⟨answered, answer, ?_⟩
  cases reply : answered.reply with
  | error e =>
    rw [reply] at ends
    exact Or.inl ⟨⟨e, rfl⟩, (Except.ok.inj ends).symm⟩
  | ok id =>
    rw [reply] at ends
    cases later : answered.venue.placed cs with
    | error e =>
      rw [later] at ends
      cases ends
    | ok others =>
      rw [later] at ends
      exact Or.inr ⟨id, others, rfl, rfl, (Except.ok.inj ends).symm⟩

/-- What is taken can be placed, and nothing longer can. -/
theorem placed_longest {cs taken : List Candidate} (found : v.placed cs = .ok taken) :
    taken <+: cs ∧ v.PlacesAll taken ∧
      ∀ more, more <+: cs → v.PlacesAll more → more <+: taken := by
  induction cs generalizing v taken with
  | nil =>
    obtain rfl := Except.ok.inj found
    exact ⟨List.nil_prefix, trivial, fun more begins _ => begins⟩
  | cons c cs ih =>
    obtain ⟨answered, answer, ⟨⟨e, refused⟩, rfl⟩ | ⟨id, others, reply, later, rfl⟩⟩ :=
      placed_cases found
    · refine ⟨List.nil_prefix, trivial, fun more begins places => ?_⟩
      cases more with
      | nil => exact List.nil_prefix
      | cons d more =>
        obtain ⟨rfl, -⟩ := List.cons_prefix_cons.mp begins
        obtain ⟨id, answered', answer', reply, -⟩ := places
        obtain rfl := Except.ok.inj (answer.symm.trans answer')
        cases refused.symm.trans reply
    · obtain ⟨within, all, longest⟩ := ih later
      refine ⟨List.cons_prefix_cons.mpr ⟨rfl, within⟩, ⟨id, answered, answer, reply, all⟩,
        fun more begins places => ?_⟩
      cases more with
      | nil => exact List.nil_prefix
      | cons d more =>
        obtain ⟨rfl, shorter⟩ := List.cons_prefix_cons.mp begins
        obtain ⟨id', answered', answer', -, rest⟩ := places
        obtain rfl := Except.ok.inj (answer.symm.trans answer')
        exact List.cons_prefix_cons.mpr ⟨rfl, longest more shorter rest⟩

theorem placesAll_iff {cs taken : List Candidate} (found : v.placed cs = .ok taken) :
    v.PlacesAll cs ↔ taken = cs := by
  obtain ⟨begins, places, longest⟩ := placed_longest found
  constructor
  · intro all
    have whole := longest cs (List.prefix_refl cs) all
    exact begins.eq_of_length (le_antisymm begins.length_le whole.length_le)
  · rintro rfl
    exact places

end Placing

/-! ### What is spent -/

theorem ExactLocks.after {currency : String} {sum locked : Decimal}
    {orders more : List RestingOrder} (exactly : ExactLocks currency sum (orders ++ more))
    (found : lockedFrom currency sum orders = .ok locked) : ExactLocks currency locked more := by
  induction orders generalizing sum with
  | nil =>
    obtain rfl := Except.ok.inj found
    exact exactly
  | cons o orders ih =>
    obtain ⟨needed, locks, rest⟩ := Overflow.bind_eq_ok_iff.mp found
    obtain ⟨total, adds, rest⟩ := Overflow.bind_eq_ok_iff.mp rest
    obtain ⟨added, later⟩ := exactly needed (by rw [locks]; rfl)
    obtain ⟨total', computed, -⟩ := added.isSome
    rw [Decimal.add, computed] at adds
    obtain rfl := Except.ok.inj adds
    exact ih (later total' computed) rest

/-- Some orders have come to rest on the venue `v`, and `spent` is what they need. -/
structure Spends (v w : Paper) (spent : Table String Decimal) (rested : List RestingOrder) :
    Prop where
  market : SameMarket v w
  orders : w.orders = v.orders ++ rested
  sound : ∀ o ∈ rested, o.Sound
  needed : ∀ currency, (spentOn spent currency).value = (rested.map (·.needs currency)).sum
  covered : ∀ currency free, v.available currency = .ok free →
    (spentOn spent currency).value ≤ free.value

theorem spends_nothing (v : Paper) : Spends v v {} [] where
  market := .refl v
  orders := (List.append_nil _).symm
  sound := List.forall_mem_nil _
  needed _ := value_zero
  covered currency free found := by
    change zero.value ≤ _
    rw [value_zero]
    exact available_nonneg found

/-- A cut at zero makes no difference to what can still be paid for, if what is spent already was
there. -/
theorem max_sub_lt_iff {base spent needed : ℚ} (nonneg : 0 ≤ spent) (covered : spent ≤ max base 0) :
    max (base - spent) 0 < needed ↔ max base 0 < spent + needed := by
  rcases le_or_gt spent base with within | beyond
  · rw [max_eq_left (sub_nonneg.mpr within), max_eq_left (nonneg.trans within),
      sub_lt_iff_lt_add']
  · have nothing : spent = 0 :=
      le_antisymm ((le_max_iff.mp covered).resolve_left (not_le.mpr beyond)) nonneg
    rw [nothing, sub_zero, zero_add]

namespace Spends

variable {v w : Paper} {spent : Table String Decimal} {rested : List RestingOrder}

theorem nonneg (spends : Spends v w spent rested) (currency : String) :
    0 ≤ (spentOn spent currency).value := by
  rw [spends.needed]
  refine List.sum_nonneg fun x member => ?_
  obtain ⟨o, resting, rfl⟩ := List.mem_map.mp member
  exact (spends.sound o resting).needs_nonneg currency

theorem locked (spends : Spends v w spent rested) (currency : String) :
    w.locked currency = (do Paper.lockedFrom currency (← v.locked currency) rested) := by
  rw [Paper.locked, spends.orders, lockedFrom_append]
  rfl

/-- What is needed next exceeds what is available now if and only if together with what is spent it
exceeds what was available at first. -/
theorem available (spends : Spends v w spent rested) {currency : String}
    (before : v.ExactAvailable currency) (now : w.ExactAvailable currency) :
    (∃ e, v.available currency = .error e ∧ w.available currency = .error e) ∨
      ∃ free left, v.available currency = .ok free ∧ w.available currency = .ok left ∧
        ∀ needed : ℚ, left.value < needed ↔
          free.value < (spentOn spent currency).value + needed := by
  have grown := spends.locked currency
  cases locks : v.locked currency with
  | error e =>
    rw [locks] at grown
    exact Or.inl ⟨e, by rw [Paper.available, locks]; rfl, by rw [Paper.available, grown]; rfl⟩
  | ok locked =>
    rw [locks] at grown
    have exactly : ExactLocks currency locked rested :=
      ExactLocks.after (spends.orders ▸ now.locks) locks
    obtain ⟨all, rest, total⟩ :=
      lockedFrom_value (fun o member => (spends.sound o member).computed) exactly
    obtain ⟨free, found, number⟩ := available_max locks before
    obtain ⟨left, found', number'⟩ := available_max (grown.trans rest) now
    have same : w.balance currency = v.balance currency := by
      rw [balance, balance, spends.market.balances]
    have covered := spends.covered currency free found
    rw [number] at covered
    refine Or.inr ⟨free, left, found, found', fun needed => ?_⟩
    rw [number', number, total, same, ← spends.needed, ← sub_sub]
    exact max_sub_lt_iff (spends.nonneg currency) covered

/-- One more order comes to rest, and what it needs is spent. -/
theorem rest (spends : Spends v w spent rested) {c : Candidate} (payable : c.Payable)
    {needed total free : Decimal} (required : requirement c = .ok (c.currency, needed))
    (sum : total.value = (spentOn spent c.currency).value + needed.value)
    (found : v.available c.currency = .ok free) (enough : ¬ free < total) :
    Spends v (w.rest c).2 (spent.set c.currency total) (rested ++ [c.rest (w.rest c).1]) where
  market := spends.market.trans ⟨rfl, rfl, rfl⟩
  orders := by
    change w.orders ++ _ = _
    rw [spends.orders, List.append_assoc]
    rfl
  sound := List.forall_mem_append.mpr
    ⟨spends.sound, List.forall_mem_singleton.mpr (payable.sound _)⟩
  needed currency := by
    obtain ⟨-, needs⟩ := requirement_value required (w.rest c).1
    rw [List.map_append, List.sum_append, ← spends.needed, List.map_singleton, List.sum_singleton,
      needs, spentOn, Table.get?_set]
    split
    next same =>
      subst same
      exact sum
    next => rw [add_zero, spentOn]
  covered currency free' found' := by
    rw [spentOn, Table.get?_set]
    split
    next same =>
      subst same
      obtain rfl := Except.ok.inj (found.symm.trans found')
      exact le_iff_value.mp (le_of_not_lt enough)
    next => exact spends.covered currency free' found'

end Spends

/-! ### The check -/

/-- The check of a budget lets through what could be placed from there. -/
theorem affordable_placed {v w : Paper} {spent : Table String Decimal} {rested : List RestingOrder}
    (spends : Spends v w spent rested) (working : w.failing = []) {cs : List Candidate}
    (payable : ∀ c ∈ cs, c.Payable) (placing : w.ExactPlacing cs)
    (spending : v.ExactSpending spent cs) : v.affordable spent cs = .ok <$> w.placed cs := by
  induction cs generalizing w spent rested with
  | nil => rfl
  | cons c cs ih =>
    obtain ⟨here, others⟩ := List.forall_mem_cons.mp payable
    obtain ⟨needed, required⟩ := here.required
    obtain ⟨before, sums⟩ := spending
    obtain ⟨exactly, later⟩ := sums (c.currency, needed) (by rw [required]; rfl)
    obtain ⟨total, added, sum⟩ := exactly.isSome
    have checks : v.affordable spent (c :: cs) = (do
        if (← v.available c.currency) < total then
          return .ok []
        else
          return (c :: ·) <$> (← v.affordable (spent.set c.currency total) cs)) := by
      rw [affordable, required]
      change (do let total ← (spentOn spent c.currency).add needed; _) = _
      rw [Decimal.add, added]
      rfl
    rw [checks, placed_cons working here required]
    rcases spends.available before placing.1 with
      ⟨e, broken, broken'⟩ | ⟨free, left, found, found', agree⟩
    · rw [broken, broken']
      rfl
    · have same : left < needed ↔ free < total := by
        rw [lt_iff_value, lt_iff_value, sum]
        exact agree needed.value
      rw [found, found']
      by_cases short : free < total
      · change (if free < total then _ else _) = Except.ok <$> (if left < needed then _ else _)
        rw [if_pos short, if_pos (same.mpr short)]
        rfl
      · have taken := fun less => short (same.mp less)
        change (if free < total then _ else _) = Except.ok <$> (if left < needed then _ else _)
        rw [if_neg short, if_neg taken,
          ih (spends.rest here required sum found short) working others
            (placing.rest working (.of_payable here required found' taken))
            (later total added free (by rw [found]; rfl) short)]
        cases (w.rest c).2.placed cs with
        | error e => rfl
        | ok more => rfl

/-- Placing breaks down only where what a resting buy is worth overflows. -/
theorem placed_total {v : Paper} (working : v.failing = [])
    (computed : ∀ o ∈ v.orders, o.Computed) {cs : List Candidate} (payable : ∀ c ∈ cs, c.Payable)
    (placing : v.ExactPlacing cs) : ∃ taken, v.placed cs = .ok taken := by
  induction cs generalizing v with
  | nil => exact ⟨[], rfl⟩
  | cons c cs ih =>
    obtain ⟨here, others⟩ := List.forall_mem_cons.mp payable
    obtain ⟨needed, required⟩ := here.required
    obtain ⟨locked, locks, -⟩ := locked_value computed placing.1.locks
    obtain ⟨free, found, -⟩ := available_max locks placing.1
    rw [placed_cons working here required, found]
    by_cases less : free < needed
    · exact ⟨[], if_pos less⟩
    · have grown : ∀ o ∈ (v.rest c).2.orders, o.Computed :=
        List.forall_mem_append.mpr
          ⟨computed, List.forall_mem_singleton.mpr (here.sound _).computed⟩
      obtain ⟨taken, later⟩ := ih (v := (v.rest c).2) working grown others
        (placing.rest working (.of_payable here required found less))
      refine ⟨c :: taken, ?_⟩
      change (if free < needed then _ else _) = _
      rw [if_neg less, later]
      rfl

/-- The answers to a budget are told by placing the candidates one after the other. -/
theorem answer_budget {v : Paper} (working : v.failing = []) {cs : List Candidate}
    (payable : ∀ c ∈ cs, c.Payable) (placing : v.ExactPlacing cs)
    (spending : v.ExactSpending {} cs) (allOrNone : Bool) :
    v.answer (.budgetAdjust cs allOrNone) = (do
      let taken ← v.placed cs
      return {
        reply := .ok (if allOrNone && taken.length != cs.length then [] else taken)
        venue := v }) := by
  rw [answer_working working, serve, adjust,
    affordable_placed (spends_nothing v) working payable placing spending]
  cases v.placed cs with
  | error e => rfl
  | ok taken => rfl

/-- Without injected failures and with exact sums, a budget answer is as placing would go. What is
let through is the longest beginning of the batch that can be placed one after the other, or with
all or none the batch if all of it can be placed and nothing otherwise, and the venue stays as it
is. If what a resting buy is worth overflows where it is asked for, placing and the budget break
down alike. -/
theorem budget_agrees {v : Paper} (working : v.failing = []) {cs : List Candidate}
    (payable : ∀ c ∈ cs, c.Payable) (placing : v.ExactPlacing cs)
    (spending : v.ExactSpending {} cs) :
    (∃ taken, taken <+: cs ∧ v.PlacesAll taken ∧
        (∀ more, more <+: cs → v.PlacesAll more → more <+: taken) ∧
        v.answer (.budgetAdjust cs false) = .ok { reply := .ok taken, venue := v } ∧
        (v.PlacesAll cs →
          v.answer (.budgetAdjust cs true) = .ok { reply := .ok cs, venue := v }) ∧
        (¬ v.PlacesAll cs →
          v.answer (.budgetAdjust cs true) = .ok { reply := .ok [], venue := v })) ∨
      (∃ o ∈ v.orders, o.side = .buy ∧ mul? o.price o.amount = none) ∧
        ∃ e, v.placed cs = .error e ∧
          ∀ allOrNone, v.answer (.budgetAdjust cs allOrNone) = .error e := by
  have answer := answer_budget working payable placing spending
  cases ends : v.placed cs with
  | error e =>
    refine Or.inr ⟨?_, e, rfl, fun allOrNone => by rw [answer, ends]; rfl⟩
    by_contra fits
    have computed : ∀ o ∈ v.orders, o.Computed := by
      intro o resting buys
      cases multiplied : mul? o.price o.amount with
      | none => exact absurd ⟨o, resting, buys, multiplied⟩ fits
      | some value => exact ⟨value, rfl⟩
    obtain ⟨taken, found⟩ := placed_total working computed payable placing
    cases ends.symm.trans found
  | ok taken =>
    obtain ⟨begins, places, longest⟩ := placed_longest ends
    refine Or.inl ⟨taken, begins, places, longest, ?_, fun all => ?_, fun cut => ?_⟩
    · rw [answer, ends]
      rfl
    · obtain rfl := (placesAll_iff ends).mp all
      rw [answer, ends]
      simp [pure, Except.pure, bind, Except.bind]
    · have shorter : taken.length ≠ cs.length := fun same =>
        cut ((placesAll_iff ends).mpr (begins.eq_of_length same))
      rw [answer, ends]
      simp [pure, Except.pure, bind, Except.bind, shorter]

/-- A sell that the small market can pay for, and a buy that it could pay for without the sell: what
the one needs is the base, what the other needs the quote of its pair. -/
def smallBatch : List Candidate :=
  [smallBuy, { pair := ⟨"X", "BTC"⟩, side := .sell, price := 0.0012, amount := 60.0 },
    { pair := ⟨"Y", "X"⟩, side := .buy, price := 0.5, amount := 100.0 }]

/-- The first two are taken, and with all or none nothing. -/
theorem budget_agrees_small : Rehearsal.small.venue.failing = [] ∧
    (∀ c ∈ smallBatch, c.Payable) ∧ Rehearsal.small.venue.ExactPlacing smallBatch ∧
    Rehearsal.small.venue.ExactSpending {} smallBatch ∧
    Rehearsal.small.venue.PlacesAll (smallBatch.take 2) ∧
    ¬ Rehearsal.small.venue.PlacesAll smallBatch ∧
    Rehearsal.small.venue.answer (.budgetAdjust smallBatch false) =
      .ok { reply := .ok (smallBatch.take 2), venue := Rehearsal.small.venue } ∧
    Rehearsal.small.venue.answer (.budgetAdjust smallBatch true) =
      .ok { reply := .ok [], venue := Rehearsal.small.venue } := by
  have payable : ∀ c ∈ smallBatch, c.Payable := by decide +kernel
  have placing : Rehearsal.small.venue.ExactPlacing smallBatch := by decide +kernel
  have spending : Rehearsal.small.venue.ExactSpending {} smallBatch := by decide +kernel
  have two : (Rehearsal.small.venue.answer (.budgetAdjust smallBatch false)).toOption.map
      (·.reply) = some (.ok (smallBatch.take 2)) := by
    decide +kernel
  rcases budget_agrees rfl payable placing spending with
    ⟨taken, begins, places, longest, cut, -, nothing⟩ | ⟨⟨o, resting, -⟩, -⟩
  · rw [cut] at two
    obtain rfl : taken = smallBatch.take 2 := Except.ok.inj (Option.some.inj two)
    have unplaced : ¬ Rehearsal.small.venue.PlacesAll smallBatch := fun all =>
      absurd (longest _ (List.prefix_refl _) all).length_le (by decide)
    exact ⟨rfl, payable, placing, spending, places, unplaced, cut, nothing unplaced⟩
  · cases resting

/-- The small market with a buy that rests from outside and is worth more than there are numbers
for. -/
def overflowing : Paper :=
  (Rehearsal.small.venue.rest
    { smallBuy with price := 7922816251426433759354395033.5, amount := 100.0 }).2

/-- Where what rests is worth too much, neither the whole batch nor a beginning of it, not even an
empty one, is answered. -/
theorem budget_overflowing : overflowing.failing = [] ∧ smallBuy.Payable ∧
    overflowing.ExactPlacing [smallBuy] ∧ overflowing.ExactSpending {} [smallBuy] ∧
    ¬ overflowing.PlacesAll [smallBuy] ∧
    overflowing.answer (.budgetAdjust [smallBuy] true) ≠
      .ok { reply := .ok [], venue := overflowing } ∧
    ∀ taken, overflowing.answer (.budgetAdjust [smallBuy] false) ≠
      .ok { reply := .ok taken, venue := overflowing } := by
  have broken : ∀ allOrNone, (overflowing.answer (.budgetAdjust [smallBuy] allOrNone)).toOption =
      none := by
    decide +kernel
  have placing : (overflowing.answer (.place smallBuy)).toOption = none := by decide +kernel
  refine ⟨rfl, by decide +kernel, by decide +kernel, by decide +kernel, fun all => ?_,
    fun answer => ?_, fun taken answer => ?_⟩
  · obtain ⟨id, answered, answer, -⟩ := all
    rw [answer] at placing
    cases placing
  · have nothing := broken true
    rw [answer] at nothing
    cases nothing
  · have nothing := broken false
    rw [answer] at nothing
    cases nothing

end Paper

end QuoteKeeper
