import QuoteKeeper.Proofs.Cycle.Observed
import QuoteKeeper.Proofs.Cycle.Taking
import QuoteKeeper.Proofs.Venue.Answering

/-!
# Leaving a pair out

What is different without one of the pairs, and what is not: the readings and the prices of the
other pairs, what becomes of them, and the calls but for those that read the book of the pair.
-/

namespace QuoteKeeper

open Dialogue

/-- The settings without a pair. -/
def Settings.without (settings : Settings) (p : Pair) : Settings :=
  { settings with pairs := settings.pairs.filter fun q => decide (q ≠ p) }

/-- The keeper without a pair. -/
def Keeper.without (k : Keeper) (p : Pair) : Keeper := { k with settings := k.settings.without p }

/-! ### Calls -/

def readsBookOf (p : Pair) : Exchange → Bool
  | ⟨.topOfBook q _, _⟩ => decide (q = p)
  | _ => false

/-- The calls but for those that read the book of a pair. -/
def otherCalls (p : Pair) (calls : List Exchange) : List Exchange :=
  calls.filter fun x => !readsBookOf p x

theorem otherCalls_append (p : Pair) (a b : List Exchange) :
    otherCalls p (a ++ b) = otherCalls p a ++ otherCalls p b :=
  List.filter_append a b

theorem otherCalls_of_kind {calls : List Exchange} (p : Pair)
    (others : ∀ x ∈ calls, x.1.kind ≠ .topOfBook) : otherCalls p calls = calls := by
  apply List.filter_eq_self.mpr
  rintro ⟨c, r⟩ member
  cases c with
  | topOfBook q side => exact absurd rfl (others _ member)
  | openOrders | balance | cancel | place | budgetAdjust => rfl

/-- Whatever has a state that no call for the book of a pair changes comes to the same state without
these calls. -/
theorem foldl_otherCalls {σ : Type} {p : Pair} {step : σ → Exchange → σ}
    (idle : ∀ v x, readsBookOf p x = true → step v x = v) (calls : List Exchange) (v : σ) :
    (otherCalls p calls).foldl step v = calls.foldl step v := by
  induction calls generalizing v with
  | nil => rfl
  | cons x calls ih =>
    by_cases reads : readsBookOf p x = true
    · rw [otherCalls, List.filter_cons_of_neg (by simp [reads]), List.foldl_cons, idle v x reads]
      exact ih v
    · rw [otherCalls, List.filter_cons_of_pos (by simp [reads]), List.foldl_cons, List.foldl_cons]
      exact ih (step v x)

/-- The venue comes to the same state without the calls for the book of a pair. -/
theorem Paper.Answers.otherCalls {v w : Paper} {calls : List Exchange} (answers : v.Answers calls w)
    (p : Pair) : v.Answers (otherCalls p calls) w := by
  induction answers with
  | nil v => exact .nil v
  | @cons v w c answered calls answer later ih =>
    by_cases reads : readsBookOf p ⟨c, answered.reply⟩ = true
    · have look : c.kind = .topOfBook := by
        cases c with
        | topOfBook q side => rfl
        | openOrders | balance | cancel | place | budgetAdjust => exact nomatch reads
      have same : answered.venue = v := answer_look answer
        (fun places => nomatch look.symm.trans places)
        fun cancels => nomatch look.symm.trans cancels
      rw [QuoteKeeper.otherCalls, List.filter_cons_of_neg (by simp [reads]), ← same]
      exact ih
    · rw [QuoteKeeper.otherCalls, List.filter_cons_of_pos (by simp [reads])]
      exact .cons answer ih

/-! ### Readings and prices -/

namespace Reading

/-- The book of a pair is read for that pair only. -/
theorem Course.otherCalls {p q : Pair} {r : Option BidAsk} {reading : Reading}
    {calls : List Exchange} (course : Course q r reading calls) :
    otherCalls p calls = if q = p then [] else calls := by
  by_cases same : q = p
  · cases course with
    | stale | noBid | noAsk | whole => simp [QuoteKeeper.otherCalls, readsBookOf, same]
  · cases course with
    | stale | noBid | noAsk | whole => simp [QuoteKeeper.otherCalls, readsBookOf, same]

/-- Reading the other pairs. -/
theorem Courses.without {asked : List (Pair × Option BidAsk)} {readings : List (Pair × Reading)}
    {calls : List Exchange} (courses : Courses asked readings calls) (p : Pair) :
    Courses (asked.filter fun e => decide (e.1 ≠ p)) (readings.filter fun e => decide (e.1 ≠ p))
      (QuoteKeeper.otherCalls p calls) := by
  induction courses with
  | nil => exact .nil
  | @cons q r reading calls more asked readings head tail ih =>
    rw [otherCalls_append, head.otherCalls]
    by_cases same : q = p
    · rw [List.filter_cons_of_neg (by simpa using same),
        List.filter_cons_of_neg (by simpa using same), if_pos same]
      exact ih
    · rw [List.filter_cons_of_pos (by simpa using same),
        List.filter_cons_of_pos (by simpa using same), if_neg same]
      exact .cons head ih

theorem Course.pair {p : Pair} {r : Option BidAsk} {reading : Reading} {calls : List Exchange}
    (course : Course p r reading calls) {x : Exchange} (member : x ∈ calls) :
    ∃ side, x.1 = .topOfBook p side := by
  cases course with
  | stale => exact nomatch member
  | noBid =>
    rw [List.mem_singleton.mp member]
    exact ⟨.buy, rfl⟩
  | noAsk | whole =>
    rcases List.mem_cons.mp member with rfl | last
    · exact ⟨.buy, rfl⟩
    · rw [List.mem_singleton.mp last]
      exact ⟨.sell, rfl⟩

theorem Courses.pair {asked : List (Pair × Option BidAsk)} {readings : List (Pair × Reading)}
    {calls : List Exchange} (courses : Courses asked readings calls) {x : Exchange}
    (member : x ∈ calls) : ∃ p ∈ readings.map (·.1), ∃ side, x.1 = .topOfBook p side := by
  induction courses with
  | nil => exact nomatch member
  | cons head tail ih =>
    rcases List.mem_append.mp member with here | later
    · exact ⟨_, List.mem_cons_self, head.pair here⟩
    · obtain ⟨p, listed, side⟩ := ih later
      exact ⟨p, List.mem_cons_of_mem _ listed, side⟩

theorem Course.unread {p : Pair} {r : Option BidAsk} {reading : Reading} {calls : List Exchange}
    (course : Course p r reading calls) {side : Side} {e : CallError}
    (failed : ⟨.topOfBook p side, .error e⟩ ∈ calls) {v : PairPrices} (found : reading = some v) :
    v.book = none := by
  cases course with
  | stale => exact nomatch found
  | noBid | noAsk =>
    obtain rfl := Option.some.inj found
    rfl
  | whole =>
    rcases List.mem_cons.mp failed with first | last
    · cases first
    · cases List.mem_singleton.mp last

/-- A pair with a call for its book that has failed has no book. -/
theorem Courses.unread {asked : List (Pair × Option BidAsk)} {readings : List (Pair × Reading)}
    {calls : List Exchange} (courses : Courses asked readings calls)
    (distinct : (readings.map (·.1)).Nodup) {p : Pair} {side : Side} {e : CallError}
    (failed : ⟨.topOfBook p side, .error e⟩ ∈ calls) {v : PairPrices}
    (found : (p, some v) ∈ readings) : v.book = none := by
  induction courses with
  | nil => exact nomatch found
  | @cons q r reading calls more asked readings head tail ih =>
    rw [List.map_cons, List.nodup_cons] at distinct
    rcases List.mem_append.mp failed with here | later
    · obtain ⟨side', same⟩ := head.pair here
      obtain ⟨rfl, rfl⟩ := Call.topOfBook.inj same
      rcases List.mem_cons.mp found with same | later
      · exact head.unread here (Prod.mk.inj same).2.symm
      · exact absurd (List.mem_map_of_mem later) distinct.1
    · obtain ⟨q', listed, side', same⟩ := tail.pair later
      obtain ⟨rfl, rfl⟩ := Call.topOfBook.inj same
      rcases List.mem_cons.mp found with same | elsewhere
      · obtain ⟨rfl, -⟩ := Prod.mk.inj same
        exact absurd listed distinct.1
      · exact ih distinct.2 later elsewhere

end Reading

theorem Prices.get?_without {readings : List (Pair × Reading)}
    (distinct : (readings.map (·.1)).Nodup) {p q : Pair} (different : q ≠ p) :
    (ofReadings (readings.filter fun e => decide (e.1 ≠ p))).get? q =
      (ofReadings readings).get? q := by
  have fewer : ((readings.filter fun e => decide (e.1 ≠ p)).map (·.1)).Sublist
      (readings.map (·.1)) := List.filter_sublist.map _
  have unread : ∀ {rs : List (Pair × Reading)}, q ∉ rs.map (·.1) →
      (ofReadings rs).get? q = none := by
    intro rs absent
    exact Table.get?_ofList_of_notMem fun listed => absent ((keys_sublist rs).subset listed)
  by_cases listed : q ∈ readings.map (·.1)
  · obtain ⟨⟨q, r⟩, member, rfl⟩ := List.mem_map.mp listed
    have kept : (q, r) ∈ readings.filter fun e => decide (e.1 ≠ p) :=
      List.mem_filter.mpr ⟨member, decide_eq_true different⟩
    rw [get?_ofReadings distinct member, get?_ofReadings (distinct.sublist fewer) kept]
  · rw [unread listed, unread fun kept => listed (fewer.subset kept)]

/-! ### Orders and proposals -/

theorem OpenOrders.on_without {settings : Settings} {p q : Pair} (different : q ≠ p)
    (orders : List RestingOrder) (side : Side) :
    (OpenOrders.mk (settings.without p).pairs orders).on q side =
      (OpenOrders.mk settings.pairs orders).on q side := by
  simp [OpenOrders.on, Settings.without, different]

theorem OpenOrders.has_without {settings : Settings} {p q : Pair} (different : q ≠ p)
    (orders : List RestingOrder) (side : Side) :
    (OpenOrders.mk (settings.without p).pairs orders).has q side =
      (OpenOrders.mk settings.pairs orders).has q side := by
  rw [OpenOrders.has, OpenOrders.on_without different, OpenOrders.has]

theorem CancelPlan.concat_cons (plan : CancelPlan) (plans : List CancelPlan) :
    (concat (plan :: plans)).withdrawals = plan.withdrawals ++ (concat plans).withdrawals := rfl

/-- Plans that are made pair by pair are the same without a pair that has nothing to withdraw. -/
theorem CancelPlan.concat_without {p : Pair} {pairs : List Pair} {f g : Pair → CancelPlan}
    (others : ∀ q, q ≠ p → g q = f q) (nothing : p ∈ pairs → (f p).withdrawals = []) :
    (concat ((pairs.filter fun q => decide (q ≠ p)).map g)).withdrawals =
      (concat (pairs.map f)).withdrawals := by
  induction pairs with
  | nil => rfl
  | cons q pairs ih =>
    have later := ih fun listed => nothing (List.mem_cons_of_mem q listed)
    rw [List.map_cons, concat_cons]
    by_cases same : q = p
    · subst same
      rw [List.filter_cons_of_neg (by simp), later, nothing List.mem_cons_self, List.nil_append]
    · rw [List.filter_cons_of_pos (by simpa using same), List.map_cons, concat_cons, later,
        others q same]

namespace Proposal

/-- What becomes of a pair has nothing to do with another one. -/
theorem outcome_without {settings : Settings} {p q : Pair} (different : q ≠ p)
    (prices : PairPrices) (orders : List RestingOrder) (cooldown : Cooldown) (now : Instant) :
    outcome (settings.without p) q prices ⟨(settings.without p).pairs, orders⟩ cooldown now =
      outcome settings q prices ⟨settings.pairs, orders⟩ cooldown now := by
  simp only [outcome, withBook, sides, OpenOrders.has_without different]
  rfl

theorem Course.without {settings : Settings} {p q : Pair} {prices : PairPrices}
    {orders : List RestingOrder} {cooldown : Cooldown} {now : Instant} {o : PairOutcome}
    {calls : List Exchange} (different : q ≠ p)
    (course : Course settings q prices ⟨settings.pairs, orders⟩ cooldown now o calls) :
    Course (settings.without p) q prices ⟨(settings.without p).pairs, orders⟩ cooldown now o
      calls := by
  obtain ⟨t, path, rfl⟩ := course.goes
  rw [← outcome_without different] at path
  exact (outcome_course path).2

/-- Without a book there are no candidates and there is nothing to ask. -/
theorem Course.unread {settings : Settings} {p : Pair} {prices : PairPrices} {orders : OpenOrders}
    {cooldown : Cooldown} {now : Instant} {o : PairOutcome} {calls : List Exchange}
    (course : Course settings p prices orders cooldown now o calls) (missing : prices.book = none) :
    o.candidates = [] ∧ calls = [] := by
  cases course with
  | waiting | noBook => exact ⟨rfl, rfl⟩
  | noBoundary due known | noSize due known | sides due known =>
    rw [missing] at known
    exact nomatch known

end Proposal

end QuoteKeeper
