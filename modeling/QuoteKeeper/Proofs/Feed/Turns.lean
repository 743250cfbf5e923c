import Mathlib.Data.List.Chain
import QuoteKeeper.Proofs.Feed.Pace
import QuoteKeeper.Rehearsal.Polling

/-!
# Polling under a clock

A fetch begins when it is due, and when it has brought something the poller pauses for its wait. So
what a rehearsed poller has received is what its script brings, in the order of the script, and from
the end of one fetch to the beginning of the next the time is the wait of a poller that has received
all that came before.
-/

namespace QuoteKeeper

namespace Feed

/-! ### The script -/

/-- What fetches bring after the script. -/
def exhausted : Fetched := .error (.feedFetch "script exhausted")

/-- What an attempt brings, sooner or later, unless it ends polling. -/
def Attempt.fetched? : Attempt → Option Fetched
  | body text | slow _ text => some (readPayload text)
  | fails detail => some (.error (.feedFetch detail))
  | breaks => none

/-- The results are those of a beginning of the script, with some failures after its end. -/
def Scripted (script rest : List Attempt) (results : List Fetched) : Prop :=
  ∃ used n, used ++ rest = script ∧
    results = used.filterMap Attempt.fetched? ++ List.replicate n exhausted ∧ (n = 0 ∨ rest = [])

namespace Scripted

variable {script rest : List Attempt} {results : List Fetched}

theorem start (script : List Attempt) : Scripted script script [] :=
  ⟨[], 0, rfl, rfl, .inl rfl⟩

theorem next {attempt : Attempt} (scripted : Scripted script (attempt :: rest) results) :
    Scripted script rest (results ++ attempt.fetched?.toList) := by
  obtain ⟨used, n, whole, brought, none | ended⟩ := scripted
  · subst none
    rw [List.replicate_zero, List.append_nil] at brought
    refine ⟨used ++ [attempt], 0, ?_, ?_, .inl rfl⟩
    · rw [List.append_assoc, List.singleton_append, whole]
    · rw [List.replicate_zero, List.append_nil, List.filterMap_append, brought]
      cases attempt with
      | body | slow | fails | breaks => rfl
  · cases ended

theorem after (scripted : Scripted script [] results) :
    Scripted script [] (results ++ [exhausted]) := by
  obtain ⟨used, n, whole, brought, -⟩ := scripted
  refine ⟨used, n + 1, whole, ?_, .inr rfl⟩
  rw [List.replicate_succ', ← List.append_assoc, brought]

end Scripted

/-! ### Turns -/

/-- A fetch that has brought something, with the instants between which it was under way. -/
structure Turn where
  began : Instant
  ended : Instant
  fetched : Fetched

open Polling (wake)

/-- Turns one after the other, the first one due at an instant, and the instant at which the next
one is due. Each begins when it is due, and is followed by a pause for the wait of a poller that has
received its result and all before it; after the script the pause may be longer. -/
inductive Paced (b : Backoff) (first : Instant) : List Turn → Instant → Prop
  | start : Paced b first [] first
  | turn {turns : List Turn} {t : Turn} {next : Instant} (before : Paced b first turns t.began)
      (forward : t.began ≤ t.ended)
      (pause : wake t.ended (poll b ((turns ++ [t]).map (·.fetched))).wait ≤ next)
      (sharp : t.fetched = exhausted ∨
        next = wake t.ended (poll b ((turns ++ [t]).map (·.fetched))).wait) :
      Paced b first (turns ++ [t]) next

theorem wake_mono (t : Instant) {short long : Span} (le : short ≤ long) :
    wake t short ≤ wake t long := by
  rw [wake, wake]
  exact Nat.add_le_add_left (Nat.le_min.mpr
    ⟨Nat.le_trans (Nat.min_le_left _ _) le, Nat.min_le_right _ _⟩) t

/-- With the waits of some settings fetches are at least the interval apart. -/
theorem Paced.apart {s : FeedSettings} (span : s.interval ≤ Span.longest) {first next : Instant}
    {turns : List Turn} (paced : Paced s.backoff first turns next) :
    (turns.IsChain fun t u => wake t.ended s.interval ≤ u.began) ∧
      ∀ t ∈ turns.getLast?, wake t.ended s.interval ≤ next := by
  induction paced with
  | start => exact ⟨.nil, fun t none => nomatch none⟩
  | @turn turns t next before forward pause sharp ih =>
    obtain ⟨chain, last⟩ := ih
    refine ⟨List.isChain_append.mpr ⟨chain, .singleton t, fun u ends v begins => ?_⟩,
      fun u ends => ?_⟩
    · obtain rfl := Option.some.inj begins
      exact last u ends
    · rw [List.getLast?_concat] at ends
      obtain rfl := Option.some.inj ends
      rw [wait_poll] at pause
      exact Nat.le_trans (wake_mono _ (interval_le_wait span _)) pause

/-- What is under way since or until the instant at which a fetch is due, and what it brings. -/
inductive UnderWay (due : Instant) : Stage → List Fetched → Prop
  | pausing : UnderWay due (.pausing due) []
  | fetching {arrival : Instant} {text : String} (later : due ≤ arrival) :
      UnderWay due (.fetching arrival text) [readPayload text]
  | broken : UnderWay due .broken []

/-- Polling has come so far: some turns, and what is under way after them. -/
structure Ran (b : Backoff) (script : List Attempt) (first : Instant) (p : Polling)
    (turns : List Turn) (due : Instant) (coming : List Fetched) : Prop where
  poller : p.poller = poll b (turns.map (·.fetched))
  paced : Paced b first turns due
  underWay : UnderWay due p.stage coming
  scripted : Scripted script p.script (turns.map (·.fetched) ++ coming)

namespace Ran

variable {b : Backoff} {script : List Attempt} {first due : Instant} {p : Polling}
  {turns : List Turn} {coming : List Fetched}

/-- A fetch brings its result. -/
theorem of_bring (poller : p.poller = poll b (turns.map (·.fetched)))
    (paced : Paced b first turns due) {arrival : Instant} (later : due ≤ arrival)
    {fetched : Fetched} (scripted : Scripted script p.script (turns.map (·.fetched) ++ [fetched])) :
    Ran b script first (p.bring arrival fetched) (turns ++ [⟨due, arrival, fetched⟩])
      (wake arrival (p.poller.receive fetched).wait) [] := by
  have received : p.poller.receive fetched =
      poll b ((turns ++ [(⟨due, arrival, fetched⟩ : Turn)]).map (·.fetched)) := by
    rw [poller, poll, poll, List.map_append, List.foldl_append]
    rfl
  refine ⟨received, ?_, .pausing, ?_⟩
  · rw [received]
    exact .turn paced later (Nat.le_refl _) (.inr rfl)
  · rw [List.append_nil, List.map_append]
    exact scripted

/-- After the script the clock goes on before the next fetch, even if there is no wait. -/
theorem of_after (poller : p.poller = poll b (turns.map (·.fetched)))
    (paced : Paced b first turns due) (scripted : Scripted script [] (turns.map (·.fetched)))
    (ended : p.script = []) (floor : Instant) :
    Ran b script first ((p.bring due exhausted).holdUntil floor)
      (turns ++ [⟨due, due, exhausted⟩])
      (Nat.max floor (wake due (p.poller.receive exhausted).wait)) [] := by
  have ran := of_bring poller paced (Nat.le_refl due) (ended ▸ scripted.after)
  refine ⟨ran.poller, ?_, .pausing, ran.scripted⟩
  refine .turn paced (Nat.le_refl due) ?_ (.inl rfl)
  rw [← ran.poller]
  exact Nat.le_max_right _ _

/-- A fetch that is due begins, and has its result at once, later or never. -/
theorem fetch (ran : Ran b script first p turns due []) :
    ∃ turns' due' coming', Ran b script first (p.fetch due) turns' due' coming' := by
  obtain ⟨poller, paced, -, scripted⟩ := ran
  rw [List.append_nil] at scripted
  rw [Polling.fetch]
  dsimp only
  split
  next ended =>
    rw [ended] at scripted
    exact ⟨_, _, _, of_after (p := { p with begun := p.begun ++ [due] }) poller paced scripted ended
      _⟩
  next attempt rest goesOn =>
    rw [goesOn] at scripted
    have next := scripted.next
    cases attempt with
    | body | fails =>
      exact ⟨_, _, _, of_bring (p := { p with begun := p.begun ++ [due], script := rest }) poller
        paced (Nat.le_refl due) next⟩
    | slow delay text => exact ⟨_, _, _, poller, paced, .fetching (Nat.le_add_right _ _), next⟩
    | breaks => exact ⟨_, _, _, poller, paced, .broken, next⟩

theorem advance (ran : Ran b script first p turns due coming) :
    ∃ turns' due' coming', Ran b script first p.advance turns' due' coming' := by
  have whole := ran
  obtain ⟨poller, paced, underWay, scripted⟩ := ran
  rw [Polling.advance]
  generalize under : p.stage = stage at underWay
  cases underWay with
  | pausing => exact whole.fetch
  | fetching later => exact ⟨_, _, _, of_bring poller paced later scripted⟩
  | broken => exact ⟨_, _, _, whole⟩

/-- However long polling goes on, it goes on in turns. -/
theorem runUntil (ran : Ran b script first p turns due coming) (finish : Instant) :
    ∃ turns' due' coming', Ran b script first (p.runUntil finish) turns' due' coming' := by
  fun_induction Polling.runUntil finish p generalizing turns due coming with
  | case1 p idle => exact ⟨_, _, _, ran⟩
  | case2 p instant waiting sooner ih =>
    obtain ⟨_, _, _, further⟩ := ran.advance
    exact ih further
  | case3 p instant waiting later => exact ⟨_, _, _, ran⟩

end Ran

/-- A new poller that polls by a script up to some instant has taken turns: it has received what
they have brought, which is what the script has in its order, and after each of them it has paused
for the wait that it then had. -/
theorem start_paced (b : Backoff) (script : List Attempt) (finish : Instant) :
    ∃ turns due coming, Ran b script 0
      (({ poller := { backoff := b }, script } : Polling).start.runUntil finish) turns due coming :=
  Ran.runUntil ⟨rfl, .start, .pausing, .start script⟩ finish

/-- With the waits of settings that were read, the fetches are at least the interval apart. -/
theorem start_apart (lookup : String → Option String) (script : List Attempt) (finish : Instant) :
    let s := FeedSettings.ofLookup lookup
    ∃ turns due coming, Ran s.backoff script 0
      (({ poller := { backoff := s.backoff }, script } : Polling).start.runUntil finish)
      turns due coming ∧ turns.IsChain fun t u => wake t.ended s.interval ≤ u.began := by
  intro s
  obtain ⟨turns, due, coming, ran⟩ := start_paced s.backoff script finish
  exact ⟨turns, due, coming, ran, (ran.paced.apart (ofLookup_interval lookup)).1⟩

end Feed

end QuoteKeeper
