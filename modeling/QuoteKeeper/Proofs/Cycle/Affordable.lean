import QuoteKeeper.Proofs.Cycle.Course
import QuoteKeeper.Proofs.Cycle.Pricing
import QuoteKeeper.Proofs.Venue.Affording
import QuoteKeeper.Settings.Check

/-!
# What is proposed can be paid for

The amount of a buy stays below a share of what the balance could buy, and that of a sell is the
balance itself. A venue that answers by itself then takes each candidate, and a batch as a whole, at
any size of price and amount. The share does not matter for it, only that no rounding passes a
decimal: a buy that could not be paid for would have an amount that is at least the quotient of
balance and price, so also at least the quotient as computed.
-/

namespace QuoteKeeper

open Decimal

namespace Decimal

/-- The least number above zero. -/
def least : Decimal where
  coefficient := 1
  scale := 28
  coefficient_le := Nat.le_of_ble_eq_true rfl
  scale_le := Nat.le_refl 28

theorem least_value : least.value = 1 / 10 ^ 28 := by
  rw [value_eq]
  simp [least, signed]

theorem least_le {a : Decimal} (positive : 0 < a.value) : least.value ≤ a.value := by
  have same := value_of_nonneg positive.le
  rw [same] at positive ⊢
  have some : 1 ≤ a.coefficient := by
    by_contra none
    have nothing : a.coefficient = 0 := by omega
    rw [magnitude, nothing, Nat.cast_zero, zero_div] at positive
    exact lt_irrefl _ positive
  have numerator : (1 : ℚ) ≤ a.coefficient := by exact_mod_cast some
  have power : (10 : ℚ) ^ a.scale ≤ 10 ^ 28 := pow_le_pow_right₀ (by norm_num) a.scale_le
  rw [least_value, magnitude, div_le_div_iff₀ (by positivity) (by positivity)]
  exact mul_le_mul numerator power (by positivity) (by linarith)

/-- The price half way between two prices is a price. -/
theorem midpoint_pos {a b middle : Decimal} (left : 0 < a.value) (right : 0 < b.value)
    (found : midpoint? a b = some middle) : 0 < middle.value := by
  have sum : 2 * least.value ≤ a.value + b.value := by
    linarith [least_le left, least_le right]
  have half := (midpoint?_halved found).atLeast sum (roomy_of_short (by decide) _)
  have positive : 0 < least.value := by
    rw [least_value]
    positivity
  exact positive.trans_le half

end Decimal

namespace SidePlan

theorem buy_pos {boundary bid distance price : Decimal} (positive : 0 < boundary.value)
    (plan : buy? boundary bid distance = some (.place price)) : 0 < price.value := by
  cases buy_priced plan with
  | alone | boundary => exact positive
  | middle somebody far near ahead half =>
    exact midpoint_pos positive (value_pos_iff.mp somebody) half

theorem sell_pos {boundary ask distance price : Decimal} (positive : 0 < boundary.value)
    (plan : sell? boundary ask distance = some (.place price)) : 0 < price.value := by
  cases sell_priced plan with
  | alone | boundary => exact positive
  | middle somebody far near ahead half =>
    exact midpoint_pos positive (value_pos_iff.mp somebody) half

end SidePlan

namespace Proposal

/-- An amount below what is allowed is worth no more than what is available, and its worth is
there. -/
theorem allowed_covers {available price amount : Decimal} (nonneg : 0 ≤ available.value)
    (pricePos : 0 < price.value) (amountPos : 0 < amount.value)
    (enough : ¬ allowedAmount available price ≤ amount) :
    ∃ value, mul? price amount = some value ∧ value.value ≤ available.value := by
  have within : price.value * amount.value ≤ available.value := by
    by_contra beyond
    refine enough (le_iff_value.mpr ?_)
    rw [allowedAmount]
    cases found : (available.div? price).bind (·.mul? safety) with
    | none => exact value_zero ▸ amountPos.le
    | some allowed =>
      obtain ⟨quotient, divided, shared⟩ := Option.bind_eq_some_iff.mp found
      have atMost : quotient.value ≤ amount.value := by
        refine (div?_rounds divided).atMost amount ?_
        rw [div_le_iff₀ pricePos]
        linarith
      have atLeast : 0 ≤ quotient.value := by
        rw [← value_zero]
        refine (div?_rounds divided).atLeast zero ?_
        rw [value_zero]
        positivity
      refine (mul?_rounds shared).atMost amount ?_
      have share : safety.value ≤ 1 := by
        decide +kernel
      calc quotient.value * safety.value ≤ quotient.value * 1 :=
            mul_le_mul_of_nonneg_left share atLeast
        _ ≤ amount.value := by rwa [mul_one]
  have magnitudes : price.magnitude * amount.magnitude ≤ available.magnitude := by
    rwa [← value_of_nonneg pricePos.le, ← value_of_nonneg amountPos.le, ← value_of_nonneg nonneg]
  obtain ⟨value, computed⟩ := mul?_isSome magnitudes
  exact ⟨value, computed, (mul?_rounds computed).atMost available within⟩

variable {settings : Settings} {p : Pair} {orders : OpenOrders} {calls : List Exchange} {v : Paper}

/-- The calls are answered by the venue, all of them in this state. -/
def Told (v : Paper) (calls : List Exchange) : Prop :=
  ∀ x ∈ calls, ∃ answered, v.answer x.1 = .ok answered ∧ answered.reply = x.2

theorem Told.available {currency : String} {free : Decimal} (working : v.failing = [])
    (told : Told v [⟨.balance currency, .ok free⟩]) : v.available currency = .ok free := by
  obtain ⟨answered, answer, reply⟩ := told _ (List.mem_singleton.mpr rfl)
  rw [Paper.answer_working working] at answer
  obtain ⟨found, asks, ends⟩ := Overflow.bind_eq_ok_iff.mp answer
  obtain rfl := Except.ok.inj ends
  exact asks.trans (congrArg Except.ok (Except.ok.inj reply))

theorem BuySideCourse.affords {boundary bid target : Decimal} {o : SideOutcome}
    (course : BuySideCourse settings p orders boundary bid target o calls)
    (positive : 0 < boundary.value) (working : v.failing = []) (told : Told v calls) :
    ∀ c ∈ o.candidates, v.Affords c ∧ c.currency = p.quote := by
  cases course with
  | resting | excluded => exact fun c member => nomatch member
  | looked free bought course =>
    cases course with
    | noPrice | tooFar | noAmount | unread | noFunds => exact fun c member => nomatch member
    | @order price amount available plan size enough =>
      intro c member
      rw [List.mem_singleton.mp member]
      obtain ⟨computed, -, sized⟩ := Option.bind_eq_some_iff.mp size
      obtain ⟨rfl, amountPos⟩ := value_pos_of_positive? sized
      have pricePos := SidePlan.buy_pos positive plan
      have found := told.available working
      obtain ⟨value, multiplied, covered⟩ :=
        allowed_covers (Paper.available_nonneg found) pricePos amountPos enough
      refine ⟨⟨pricePos, amountPos, value, available, ?_, found, covered⟩, rfl⟩
      rw [Paper.requirement]
      simp only [Candidate.notional?, multiplied]
      rfl

theorem SellSideCourse.affords {boundary ask target : Decimal} {o : SideOutcome}
    (course : SellSideCourse settings p orders boundary ask target o calls)
    (positive : 0 < boundary.value) (sized : 0 < target.value) (working : v.failing = [])
    (told : Told v calls) : ∀ c ∈ o.candidates, v.Affords c ∧ c.currency = p.base := by
  cases course with
  | resting => exact fun c member => nomatch member
  | looked free course =>
    cases course with
    | noPrice | tooFar | unread | noFunds => exact fun c member => nomatch member
    | @order price amount plan enough =>
      intro c member
      rw [List.mem_singleton.mp member]
      rw [lt_iff_value, not_lt] at enough
      have found := told.available working
      exact ⟨⟨SidePlan.sell_pos positive plan, sized.trans_le enough, amount, amount, rfl, found,
        le_refl _⟩, rfl⟩

/-- On a pair of two currencies the candidates need one each. -/
theorem Course.currencies {prices : PairPrices} {cooldown : Cooldown} {now : Instant}
    {o : PairOutcome} (course : Course settings p prices orders cooldown now o calls)
    (apart : p.base ≠ p.quote) : (o.candidates.map (·.currency)).Nodup := by
  obtain ⟨sides, accepted⟩ := course.candidates
  have same : o.candidates.map (·.currency) = (o.candidates.map (·.side)).map p.currency := by
    rw [List.map_map]
    refine List.map_congr_left fun c member => ?_
    rw [Candidate.currency, (accepted c member).pair_eq]
    rfl
  rw [same]
  exact (List.Nodup.sublist sides (by decide)).map (Pair.currency_injective apart)

/-- What is proposed for a pair is affordable. -/
theorem Course.affords {prices : PairPrices} {cooldown : Cooldown} {now : Instant}
    {o : PairOutcome} (course : Course settings p prices orders cooldown now o calls)
    (sized : ∀ size ∈ settings.size? p.quote, 0 < size.value) (working : v.failing = [])
    (told : Told v calls) : ∀ c ∈ o.candidates, v.Affords c := by
  cases course with
  | waiting | noBook | noBoundary | noSize => exact fun c member => nomatch member
  | @sides book buyMax sellMin target buy sell _ _ due known highest lowest size bought sold =>
    obtain ⟨left, right⟩ := List.forall_mem_append.mp told
    obtain ⟨_, -, above⟩ := Option.bind_eq_some_iff.mp highest
    obtain ⟨_, -, above'⟩ := Option.bind_eq_some_iff.mp lowest
    obtain ⟨rfl, buyPos⟩ := value_pos_of_positive? above
    obtain ⟨rfl, sellPos⟩ := value_pos_of_positive? above'
    have buys := bought.affords buyPos working left
    have sells := sold.affords sellPos (sized target size) working right
    exact List.forall_mem_append.mpr
      ⟨fun c member => (buys c member).1, fun c member => (sells c member).1⟩

end Proposal

/-- A call in two lists in a row is in the first, or the first is over before it. -/
theorem call_in_append {first rest done more : List Exchange} {x : Exchange}
    (split : first ++ rest = done ++ x :: more) :
    (∃ others, first = done ++ x :: others) ∨ ∃ d, done = first ++ d ∧ rest = d ++ x :: more := by
  rcases List.append_eq_append_iff.mp split with ⟨d, whole, here⟩ | ⟨d, early, late⟩
  · exact Or.inr ⟨d, whole, here⟩
  · cases d with
    | nil => exact Or.inr ⟨[], by simpa using early.symm, by simpa using late.symm⟩
    | cons y d =>
      obtain ⟨rfl, -⟩ := List.cons_eq_cons.mp late
      exact Or.inl ⟨d, early⟩

/-- A budget check of candidates that are all on pairs of two currencies, or another call. -/
def Call.Apart : Call → Prop
  | .budgetAdjust batch _ => ∀ c ∈ batch, c.pair.base ≠ c.pair.quote
  | .topOfBook _ _ | .openOrders | .balance _ | .cancel _ _ | .place _ => True

instance : (c : Call) → Decidable c.Apart
  | .budgetAdjust batch _ => inferInstanceAs (Decidable (∀ c ∈ batch, c.pair.base ≠ c.pair.quote))
  | .topOfBook _ _ | .openOrders | .balance _ | .cancel _ _ | .place _ => isTrue trivial

/-- Settings that pass the check have a target size above zero for each listed pair. -/
theorem Settings.size_pos {settings : Settings} (valid : settings.check = .ok ()) {p : Pair}
    (listed : p ∈ settings.pairs) : ∀ size ∈ settings.size? p.quote, 0 < size.value := by
  have faultless : settings.fault? = none := by
    rw [check] at valid
    split at valid
    next faultless => exact faultless
    next => exact nomatch valid
  have fine : settings.sizeFault? p = none := by
    rw [fault?] at faultless
    split at faultless
    next => exact nomatch faultless
    next =>
      simp only [Option.orElse_eq_orElse, Option.orElse_eq_or, Option.or_eq_none_iff] at faultless
      exact List.findSome?_eq_none_iff.mp faultless.1 p listed
  intro size found
  rw [sizeFault?, found] at fine
  dsimp only at fine
  split at fine
  next positive => exact value_pos_iff.mp positive
  next => exact nomatch fine

namespace Progress

open Proposal

variable {settings : Settings} {prices : Prices} {orders : OpenOrders} {now : Instant}
  {pairs : List Pair} {cooldown : Cooldown} {pass : Pass} {calls : List Exchange} {v : Paper}

theorem PassCourse.affords
    (course : PassCourse settings prices orders now pairs cooldown pass calls)
    (sized : ∀ p ∈ pairs, ∀ size ∈ settings.size? p.quote, 0 < size.value)
    (working : v.failing = []) (told : Told v calls) : ∀ c ∈ pass.batch, v.Affords c := by
  induction course with
  | nil => exact fun c member => nomatch member
  | unpriced missing tail ih => exact ih (List.forall_mem_cons.mp sized).2 told
  | without known head nothing tail ih =>
    exact ih (List.forall_mem_cons.mp sized).2 (List.forall_mem_append.mp told).2
  | accepted known head nonempty =>
    exact head.affords (List.forall_mem_cons.mp sized).1 working told

theorem PassCourse.currencies
    (course : PassCourse settings prices orders now pairs cooldown pass calls)
    (apart : ∀ c ∈ pass.batch, c.pair.base ≠ c.pair.quote) :
    (pass.batch.map (·.currency)).Nodup := by
  induction course with
  | nil => exact List.nodup_nil
  | unpriced missing tail ih => exact ih apart
  | without known head nothing tail ih => exact ih apart
  | accepted known head nonempty =>
    obtain ⟨c, member⟩ := List.exists_mem_of_ne_nil _ nonempty
    exact head.currencies ((head.candidates.2 c member).pair_eq ▸ apart c member)

end Progress

namespace Batch

variable {v w u : Paper} {cs batch : List Candidate} {result : BatchResult}
  {calls done more : List Exchange} {c : Call} {r : c.Reply}

/-- If all candidates can be placed in order, none of the calls fails. -/
theorem Placed.whole (placed : Placed cs result calls) (answers : v.Answers calls w)
    (all : v.PlacesAll cs) :
    result.placed.length = cs.length ∧ result.failed = 0 ∧ result.budgetRejected = 0 := by
  induction placed generalizing v with
  | nil => exact ⟨rfl, rfl, rfl⟩
  | done id rest ih =>
    obtain ⟨_, answered, answer, -, later⟩ := all
    obtain ⟨_, same, -, others⟩ := answers.of_cons
    obtain rfl := Except.ok.inj (answer.symm.trans same)
    obtain ⟨length, failed, rejected⟩ := ih others later
    exact ⟨congrArg (· + 1) length, failed, rejected⟩
  | failed e rest ih =>
    obtain ⟨_, answered, answer, taken, -⟩ := all
    obtain ⟨_, same, fails, -⟩ := answers.of_cons
    obtain rfl := Except.ok.inj (answer.symm.trans same)
    exact nomatch taken.symm.trans fails

/-- If all candidates can be placed in order, no call breaks the venue down. -/
theorem Placed.unbroken (placed : Placed cs result calls) (split : calls = done ++ ⟨c, r⟩ :: more)
    (answers : v.Answers done u) (all : v.PlacesAll cs) :
    ∃ answered, u.answer c = .ok answered := by
  induction placed generalizing done v with
  | nil => exact nomatch List.append_eq_nil_iff.mp split.symm
  | done id rest ih | failed e rest ih =>
    obtain ⟨_, answered, answer, -, later⟩ := all
    cases done with
    | nil =>
      cases answers
      cases split
      exact ⟨answered, answer⟩
    | cons x done =>
      obtain ⟨rfl, others⟩ := List.cons_eq_cons.mp split
      obtain ⟨_, same, -, after⟩ := answers.of_cons
      obtain rfl := Except.ok.inj (answer.symm.trans same)
      exact ih others after later

/-- An affordable batch in currencies of their own passes the check, and the venue that has checked
it can place all of it. -/
theorem Course.passes (course : Course batch result calls) (answers : v.Answers calls w)
    (working : v.failing = []) (affords : ∀ c ∈ batch, v.Affords c)
    (distinct : (batch.map (·.currency)).Nodup) :
    v.PlacesAll batch ∧ ∃ placing, Placed batch result placing ∧ v.Answers placing w := by
  have check := Paper.answer_affords working affords distinct
  refine ⟨Paper.placesAll_affords working affords distinct, ?_⟩
  cases course with
  | empty nothing =>
    rw [nothing]
    exact ⟨[], .nil, answers⟩
  | unchecked nonempty e =>
    obtain ⟨_, same, fails, -⟩ := answers.of_cons
    obtain rfl := Except.ok.inj (check.symm.trans same)
    exact nomatch fails
  | rejected nonempty cut =>
    obtain ⟨_, same, reply, -⟩ := answers.of_cons
    obtain rfl := Except.ok.inj (check.symm.trans same)
    obtain rfl := Except.ok.inj reply
    exact absurd rfl cut
  | placed nonempty whole all =>
    obtain ⟨_, same, reply, later⟩ := answers.of_cons
    obtain rfl := Except.ok.inj (check.symm.trans same)
    obtain rfl := Except.ok.inj reply
    exact ⟨_, all, later⟩

/-- So it is placed as a whole. -/
theorem Course.whole (course : Course batch result calls) (answers : v.Answers calls w)
    (working : v.failing = []) (affords : ∀ c ∈ batch, v.Affords c)
    (distinct : (batch.map (·.currency)).Nodup) :
    result.placed.length = batch.length ∧ result.failed = 0 ∧ result.budgetRejected = 0 := by
  obtain ⟨all, placing, placed, later⟩ := course.passes answers working affords distinct
  exact placed.whole later all

/-- The check of the budget is the first call. -/
theorem Course.checked_first {x : Exchange} (course : Course batch result calls)
    (split : calls = done ++ x :: more) :
    ∃ reply, ⟨.budgetAdjust batch true, reply⟩ ∈ done ++ [x] := by
  have begins : ∃ reply rest, calls = ⟨.budgetAdjust batch true, reply⟩ :: rest := by
    cases course with
    | empty nothing => exact nomatch List.append_eq_nil_iff.mp split.symm
    | unchecked | rejected | placed => exact ⟨_, _, rfl⟩
  obtain ⟨reply, rest, rfl⟩ := begins
  refine ⟨reply, ?_⟩
  cases done with
  | nil =>
    obtain ⟨rfl, -⟩ := List.cons_eq_cons.mp split
    exact List.mem_cons_self
  | cons y done =>
    obtain ⟨rfl, -⟩ := List.cons_eq_cons.mp split
    exact List.mem_cons_self

/-- Nor does checking and placing it break the venue down. -/
theorem Course.unbroken (course : Course batch result calls)
    (split : calls = done ++ ⟨c, r⟩ :: more) (answers : v.Answers done u)
    (working : v.failing = []) (affords : ∀ c ∈ batch, v.Affords c)
    (distinct : (batch.map (·.currency)).Nodup) : ∃ answered, u.answer c = .ok answered := by
  have check := Paper.answer_affords working affords distinct
  have first : ∀ {reply : Except CallError (List Candidate)} {placing : List Exchange},
      (⟨.budgetAdjust batch true, reply⟩ :: placing : List Exchange) = done ++ ⟨c, r⟩ :: more →
      done = [] → ∃ answered, u.answer c = .ok answered := by
    intro reply placing here nothing
    subst nothing
    cases answers
    cases here
    exact ⟨_, check⟩
  cases course with
  | empty nothing => exact nomatch List.append_eq_nil_iff.mp split.symm
  | unchecked nonempty e | rejected nonempty cut =>
    refine first split ?_
    cases done with
    | nil => rfl
    | cons x done => exact nomatch List.append_eq_nil_iff.mp (List.cons_eq_cons.mp split).2.symm
  | placed nonempty whole all =>
    cases done with
    | nil => exact first split rfl
    | cons x done =>
      obtain ⟨rfl, others⟩ := List.cons_eq_cons.mp split
      obtain ⟨_, same, reply, after⟩ := answers.of_cons
      obtain rfl := Except.ok.inj (check.symm.trans same)
      obtain rfl := Except.ok.inj reply
      exact all.unbroken others after (Paper.placesAll_affords working affords distinct)

end Batch

/-- All that was proposed has been placed. -/
def CycleSummary.Complete (s : CycleSummary) : Prop :=
  s.ordersPlaced = s.proposals ∧ s.budgetRejected = 0 ∧ s.placeFailures = 0

namespace Progress

open Proposal

variable {settings : Settings} {prices : Prices} {orders : OpenOrders} {now : Instant}
  {cycle : Nat} {cooldown : Cooldown} {t : Transcript} {s s' : Progress} {p : Phase}
  {pass : Pass} {result : BatchResult} {calls balances done more : List Exchange} {v w u : Paper}
  {c : Call} {r : c.Reply}

theorem concluded_complete : (s.concluded p).summary.Complete ↔ s.summary.Complete := by
  cases p with
  | blocked reason => exact Iff.rfl
  | cancelUnprofitable | cancelOutbid | propose | done => exact Iff.rfl

/-- The batch of a pass is affordable in currencies of its own, if it is on a pair of two currencies
and the balances were read at the venue. -/
theorem batch_affords (valid : settings.check = .ok ()) (working : v.failing = [])
    (passed : PassCourse settings prices orders now settings.pairs cooldown pass balances)
    (apart : pass.batch ≠ [] → (Call.budgetAdjust pass.batch true).Apart) (told : Told v balances) :
    (∀ c ∈ pass.batch, v.Affords c) ∧ (pass.batch.map (·.currency)).Nodup := by
  refine ⟨passed.affords (fun p listed => Settings.size_pos valid listed) working told, ?_⟩
  by_cases empty : pass.batch = []
  · rw [empty]
    exact List.nodup_nil
  · exact passed.currencies (apart empty)

/-- What a cycle does before its batch is to look. -/
theorem looks_before {found : List RestingOrder} {asked : List (Pair × Option BidAsk)}
    {readings : List (Pair × Reading)} {reads : List Exchange}
    (read : Reading.Courses asked readings reads) (only : OnlyBalances balances) :
    Looks (⟨.openOrders, .ok found⟩ :: (reads ++ balances)) :=
  List.forall_mem_cons.mpr ⟨List.mem_cons_self, List.forall_mem_append.mpr
    ⟨looks_of_kind read.kind (by decide), looks_of_kind only (by decide)⟩⟩

/-- In a cycle at a venue that is left alone, all that is proposed is placed. -/
theorem Course.complete (course : Course settings cycle cooldown now t s)
    (valid : settings.check = .ok ()) (working : v.failing = []) (answers : v.Answers t.calls w)
    (apart : ∀ x ∈ t.calls, x.1.Apart) : s.summary.Complete := by
  cases course with
  | starting | aborted => exact ⟨rfl, rfl, rfl⟩
  | ran feed made order read shown phases announced =>
    rw [concluded_complete]
    cases phases with
    | unprofitable | outbid => exact ⟨rfl, rfl, rfl⟩
    | @proposed pass result balances calls nothing nothing' passed placed =>
      rw [made, ← List.append_assoc, ← List.cons_append] at answers apart
      obtain ⟨u, before, after⟩ := answers.split
      obtain ⟨rfl, told⟩ := before.look (looks_before read passed.onlyBalances)
      have balances := (List.forall_mem_append.mp (List.forall_mem_cons.mp told).2).2
      have different := (List.forall_mem_append.mp apart).2
      obtain ⟨affords, distinct⟩ := batch_affords valid working passed (fun nonempty =>
        (placed.checked nonempty).elim fun _ checked => different _ checked) balances
      obtain ⟨length, failed, rejected⟩ := placed.whole after working affords distinct
      exact ⟨length, rejected, failed⟩

/-- Nor does any call of it break the venue down, unless it is for a balance that cannot be read. -/
theorem Course.unbroken (course : Course settings cycle cooldown now t s)
    (valid : settings.check = .ok ()) (working : v.failing = [])
    (readable : ∀ currency, c = .balance currency → ∃ free, v.available currency = .ok free)
    (split : t.calls = done ++ ⟨c, r⟩ :: more) (answers : v.Answers done u)
    (apart : ∀ x ∈ done ++ [⟨c, r⟩], x.1.Apart) : ∃ answered, u.answer c = .ok answered := by
  by_cases simple : c.kind ∈ [.openOrders, .topOfBook, .cancel]
  · exact Paper.answer_simple u simple
  have member : ⟨c, r⟩ ∈ t.calls := split ▸ List.mem_append_right _ List.mem_cons_self
  cases course with
  | starting feed quiet =>
    rw [quiet.1] at member
    exact nomatch member
  | aborted feed unasked made =>
    rw [made, List.mem_singleton] at member
    cases member
    exact absurd List.mem_cons_self simple
  | @ran orders _ _ _ _ _ feed made order read shown phases announced =>
    cases phases with
    | unprofitable nonempty canceled | outbid nothing nonempty canceled =>
      have all : ∀ x ∈ t.calls, x.1.kind ∈ [.openOrders, .topOfBook, .cancel] := by
        rw [made]
        refine List.forall_mem_cons.mpr ⟨List.mem_cons_self, List.forall_mem_append.mpr
          ⟨fun x reads => ?_, fun x cancels => ?_⟩⟩
        · rw [read.kind x reads]
          decide
        · rw [canceled.kind x cancels]
          decide
      exact absurd (all _ member) simple
    | @proposed pass result balances calls nothing nothing' passed placed =>
      rw [made, ← List.append_assoc, ← List.cons_append] at split
      have looks : Looks (⟨.openOrders, .ok orders⟩ :: _) := looks_before read passed.onlyBalances
      rcases call_in_append split with ⟨others, early⟩ | ⟨placing, rfl, late⟩
      · rw [early] at looks
        obtain ⟨before, here⟩ := List.forall_mem_append.mp looks
        obtain ⟨rfl, -⟩ := answers.look before
        have look := here _ List.mem_cons_self
        cases c with
        | balance currency =>
          obtain ⟨free, found⟩ := readable currency rfl
          rw [Paper.answer_working working]
          exact ⟨_, Overflow.bind_eq_ok_iff.mpr ⟨free, found, rfl⟩⟩
        | place | cancel | budgetAdjust => simp [Call.kind] at look
        | topOfBook | openOrders => exact absurd (by simp [Call.kind]) simple
      · obtain ⟨x, before, after⟩ := answers.split
        obtain ⟨rfl, told⟩ := before.look looks
        have balances := (List.forall_mem_append.mp (List.forall_mem_cons.mp told).2).2
        obtain ⟨reply, checked⟩ := placed.checked_first late
        rw [List.append_assoc] at apart
        have different := (List.forall_mem_append.mp apart).2 _ checked
        obtain ⟨affords, distinct⟩ :=
          batch_affords valid working passed (fun _ => different) balances
        exact placed.unbroken late after working affords distinct

end Progress

end QuoteKeeper
