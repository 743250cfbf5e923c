import QuoteKeeper.Feed.Settings
import QuoteKeeper.Feed.Poller
import Mathlib.Order.Monotone.Defs
import Mathlib.Order.Lattice
import Mathlib.Data.List.Induction

/-!
# What the feed knows and how long it waits

The poller has the book of the last good answer, whatever failed since. After a good answer it
waits for the interval; after failures for a time that doubles with each failure in a row, up to the
longest wait, and that never becomes shorter before the next good answer. With the waits of some
settings it never waits for less than the interval.
-/

namespace QuoteKeeper

namespace Feed

/-! ### The wait after a number of failures -/

theorem factor_mono : Monotone factor := by
  intro j k le
  rw [factor, factor]
  split
  next =>
    split
    next => exact Nat.pow_le_pow_right (by decide) (Nat.sub_le_sub_right le 1)
    next =>
      -- From the 32nd failure in a row on the factor is that of 32 bits and no more a power.
      have power : Nat.pow 2 (j - 1) ≤ Nat.pow 2 31 := Nat.pow_le_pow_right (by decide) (by omega)
      exact Nat.le_trans power (by decide)
  next => rw [if_neg (by omega)]

theorem one_le_factor (k : Nat) : 1 ≤ factor k := factor_mono (Nat.zero_le k)

namespace Backoff

variable (b : Backoff)

theorem wait_pos {k : Nat} (positive : 0 < k) :
    b.wait k = min (min (b.base * factor k) Span.longest) b.longest :=
  if_neg (Nat.ne_of_gt positive)

theorem wait_le_longest {k : Nat} (positive : 0 < k) : b.wait k ≤ b.longest := by
  rw [wait_pos b positive]
  exact Nat.min_le_right _ _

theorem wait_mono {j k : Nat} (positive : 0 < j) (le : j ≤ k) : b.wait j ≤ b.wait k := by
  have product : b.base * factor j ≤ b.base * factor k := Nat.mul_le_mul_left _ (factor_mono le)
  rw [wait_pos b positive, wait_pos b (Nat.lt_of_lt_of_le positive le)]
  exact inf_le_inf_right _ (inf_le_inf_right _ product)

example :
    let b : Backoff := ⟨Span.ofMillis 500, Span.ofMillis 500, Span.ofMillis 3000⟩
    [1, 2, 3, 4, 40].map b.wait = [500, 1000, 2000, 3000, 3000].map Span.ofMillis := by
  decide

end Backoff

theorem word?_lt {s : String} {n : Nat} (read : Text.word? s = some n) : n < Nat.pow 2 64 := by
  obtain ⟨digits, opened⟩ : ∃ digits : List Char, Text.word? s =
      if digits.isEmpty then none
      else (digits.foldlM (fun n c => (Text.digit? c).map (n * 10 + ·)) 0).bind fun n =>
        if n < Nat.pow 2 64 then some n else none := ⟨_, rfl⟩
  rw [opened] at read
  split at read
  next => cases read
  next =>
    obtain ⟨m, -, bounded⟩ := Option.bind_eq_some_iff.mp read
    split at bounded
    next below =>
      obtain rfl := Option.some.inj bounded
      exact below
    next => cases bounded

/-- The interval of settings that were read is a span that there is. -/
theorem ofLookup_interval (lookup : String → Option String) :
    (FeedSettings.ofLookup lookup).interval ≤ Span.longest := by
  rw [FeedSettings.ofLookup]
  dsimp only
  rw [spanOr]
  cases read : (lookup "MM_FEED_INTERVAL_MS").bind Text.word? with
  | none => decide
  | some n =>
    obtain ⟨text, -, word⟩ := Option.bind_eq_some_iff.mp read
    have millis : n * 1000000 ≤ (Nat.pow 2 64 - 1) * 1000000 :=
      Nat.mul_le_mul_right _ (Nat.le_sub_one_of_lt (word?_lt word))
    exact Nat.le_trans millis (by decide)

/-- With the waits of some settings no wait is shorter than the interval. -/
theorem interval_le_wait {s : FeedSettings} (span : s.interval ≤ Span.longest) (k : Nat) :
    s.interval ≤ s.backoff.wait k := by
  rcases Nat.eq_zero_or_pos k with rfl | positive
  · exact Nat.le_refl _
  · have product : s.interval ≤ s.interval * factor k := Nat.le_mul_of_pos_right _ (one_le_factor k)
    have longest : s.interval ≤ Nat.max s.longestWait s.interval := Nat.le_max_right _ _
    rw [Backoff.wait_pos _ positive]
    exact Nat.le_min.mpr ⟨Nat.le_min.mpr ⟨product, span⟩, longest⟩

/-! ### The poller after some fetches -/

/-- A new poller after some fetches, one after the other. -/
def poll (b : Backoff) (results : List Fetched) : Poller :=
  results.foldl Poller.receive { backoff := b }

/-- With how many failures in a row the results end. -/
def streak (results : List Fetched) : Nat := (results.reverse.takeWhile (!·.isOk)).length

/-- The book of the last good answer, empty if there was none. -/
def lastBook (results : List Fetched) : ReferenceBook :=
  ((results.filterMap (·.toOption)).getLast?.map (·.1)).getD {}

section

variable (results : List Fetched)

@[simp] theorem streak_ok (brought : ReferenceBook × List LogLine) :
    streak (results ++ [.ok brought]) = 0 := by
  rw [streak, List.reverse_concat]
  rfl

@[simp] theorem streak_error (e : Failure) :
    streak (results ++ [.error e]) = streak results + 1 := by
  rw [streak, List.reverse_concat]
  rfl

theorem streak_errors (errors : List Failure) :
    streak (results ++ errors.map .error) = streak results + errors.length := by
  induction errors using List.reverseRecOn with
  | nil => rw [List.map_nil, List.append_nil, List.length_nil, Nat.add_zero]
  | append_singleton errors e ih =>
    rw [List.map_append, List.map_singleton, ← List.append_assoc, streak_error, ih,
      List.length_append, List.length_singleton, Nat.add_assoc]

@[simp] theorem lastBook_ok (brought : ReferenceBook × List LogLine) :
    lastBook (results ++ [.ok brought]) = brought.1 := by
  simp [lastBook, Except.toOption]

@[simp] theorem lastBook_error (e : Failure) :
    lastBook (results ++ [.error e]) = lastBook results := by
  simp [lastBook, Except.toOption]

end

/-- The poller has received all results: it has the last good book and has counted what failed
since, as far as it counts. -/
theorem poll_eq (b : Backoff) (results : List Fetched) :
    poll b results =
      { backoff := b
        book := lastBook results
        failures := min (streak results) mostFailures } := by
  induction results using List.reverseRecOn with
  | nil => rfl
  | append_singleton results fetched ih =>
    rw [poll, List.foldl_append, ← poll, ih, List.foldl_cons, List.foldl_nil]
    cases fetched with
    | ok brought =>
      rw [lastBook_ok, streak_ok]
      rfl
    | error e =>
      have counted : Nat.min (min (streak results) mostFailures + 1) mostFailures =
          min (streak results + 1) mostFailures := by
        change min (min (streak results) mostFailures + 1) mostFailures = _
        omega
      rw [lastBook_error, streak_error, ← counted, Poller.receive]

theorem wait_poll (b : Backoff) (results : List Fetched) :
    (poll b results).wait = b.wait (min (streak results) mostFailures) := by
  rw [poll_eq, Poller.wait]

/-- Whatever the fetches have brought: the book is that of the last good answer, so that a failure
leaves it alone; the wait after a good answer is the interval; the wait after failures is the base
times a power of two, which counts them, and at most the longest wait, and it becomes no shorter
with further failures; a good answer ends the count; and a poller with the waits of some settings
waits for the interval at least. -/
theorem poll_paced (b : Backoff) (results : List Fetched) :
    (poll b results).book = lastBook results ∧
      (∀ errors : List Failure,
        (poll b (results ++ errors.map .error)).book = (poll b results).book) ∧
      (∀ brought, (poll b (results ++ [.ok brought])).failures = 0 ∧
        (poll b (results ++ [.ok brought])).wait = b.interval) ∧
      (∀ k, streak results = k → 1 ≤ k → k ≤ 32 →
        (poll b results).wait = min (min (b.base * Nat.pow 2 (k - 1)) Span.longest) b.longest) ∧
      (0 < streak results → (poll b results).wait ≤ b.longest ∧ ∀ errors : List Failure,
        (poll b results).wait ≤ (poll b (results ++ errors.map .error)).wait) ∧
      ∀ s : FeedSettings, s.interval ≤ Span.longest →
        s.interval ≤ (poll s.backoff results).wait := by
  have most : 0 < mostFailures := by decide
  refine ⟨?book, ?kept, fun brought => ⟨?ended, ?calm⟩, ?power, fun failing => ⟨?capped, ?longer⟩,
    ?least⟩
  case book => rw [poll_eq]
  case kept =>
    intro errors
    rw [poll_eq, poll_eq]
    induction errors using List.reverseRecOn with
    | nil => rw [List.map_nil, List.append_nil]
    | append_singleton errors e ih =>
      rw [List.map_append, List.map_singleton, ← List.append_assoc]
      exact (lastBook_error _ e).trans ih
  case ended =>
    rw [poll_eq, streak_ok]
    exact Nat.zero_min _
  case calm =>
    rw [wait_poll, streak_ok, Nat.zero_min]
    rfl
  case power =>
    intro k counted positive few
    have uncut : min k mostFailures = k := Nat.min_eq_left (Nat.le_trans few (by decide))
    have power : factor k = Nat.pow 2 (k - 1) := if_pos few
    rw [wait_poll, counted, uncut, b.wait_pos positive, power]
  case capped =>
    rw [wait_poll]
    exact b.wait_le_longest (Nat.lt_min.mpr ⟨failing, most⟩)
  case longer =>
    intro errors
    rw [wait_poll, wait_poll, streak_errors]
    exact b.wait_mono (Nat.lt_min.mpr ⟨failing, most⟩) (by omega)
  case least =>
    intro s span
    rw [wait_poll]
    exact interval_le_wait span _

/-- An interval of half a second, unless something else is read, and a longest wait of three
seconds. -/
def smallFeed : FeedSettings :=
  FeedSettings.ofLookup fun name => if name = "MM_FEED_MAX_BACKOFF_MS" then some "3000" else none

/-- A good answer after a failure, and then four failures. -/
def smallResults : List Fetched :=
  let failure : Fetched := .error (.feedFetch "connection refused")
  let book := Table.set {} ⟨"X", "BTC"⟩ ⟨0.001, 0.0011⟩
  [failure, .ok (book, []), failure, failure, failure, failure]

theorem poll_paced_small : streak smallResults = 4 ∧ 1 ≤ 4 ∧ 4 ≤ 32 ∧
    (poll smallFeed.backoff smallResults).book.get? ⟨"X", "BTC"⟩ = some ⟨0.001, 0.0011⟩ ∧
    (poll smallFeed.backoff smallResults).wait = Span.ofMillis 3000 ∧
    smallFeed.interval ≤ Span.longest ∧
    smallFeed.interval ≤ (poll smallFeed.backoff smallResults).wait ∧
    (poll smallFeed.backoff smallResults).wait ≤
      (poll smallFeed.backoff (smallResults ++ [.feedFetch "timeout"].map .error)).wait := by
  have counted : streak smallResults = 4 := by decide +kernel
  obtain ⟨book, -, -, power, failing, least⟩ := poll_paced smallFeed.backoff smallResults
  have span : smallFeed.interval ≤ Span.longest := ofLookup_interval _
  refine ⟨counted, by decide, by decide, ?_, ?_, span, least smallFeed span,
    (failing (by rw [counted]; decide)).2 _⟩
  · rw [book]
    decide +kernel
  · rw [power 4 counted (by decide) (by decide)]
    decide +kernel

end Feed

end QuoteKeeper
