import QuoteKeeper.Feed.Poller

/-!
# Rehearsals of polling

A poller under a clock that moves only when it is told to, with a source that follows a script. A
fetch uses its entry of the script up when it begins, also if polling is stopped before it ends.
What is due at the end of a stretch of time belongs to the next stretch.
-/

namespace QuoteKeeper

namespace Feed

/-- What the source does when it is asked once. -/
inductive Attempt where
  | body (text : String)
  | fails (detail : String)
  /-- A body that takes that long. -/
  | slow (delay : Span) (text : String)
  /-- The fetch ends polling altogether. -/
  | breaks

/-- What is under way. -/
inductive Stage where
  | idle
  /-- Polling ended by itself. -/
  | broken
  /-- The next fetch begins at an instant. -/
  | pausing (due : Instant)
  /-- A body arrives at an instant. -/
  | fetching (due : Instant) (text : String)

def Stage.isRunning : Stage → Bool
  | idle | broken => false
  | pausing _ | fetching _ _ => true

structure Polling where
  poller : Poller
  script : List Attempt
  now : Instant := 0
  stage : Stage := .idle
  /-- When the fetches began that have not been looked at yet. -/
  begun : List Instant := []
  /-- Whether a book has come that has not been looked at yet. -/
  changed : Bool := false
  lines : List LogLine := []

namespace Polling

def write (p : Polling) (lines : List LogLine) : Polling := { p with lines := p.lines ++ lines }

/-- No sleep lasts longer than this: 30 years of 365 days. -/
def longestSleep : Span := Span.ofSeconds (30 * 365 * 86400)

/-- The end of a sleep that begins at an instant. -/
def wake (t : Instant) (span : Span) : Instant := t + Nat.min span longestSleep

/-- A fetch has brought something at an instant. -/
def bring (p : Polling) (t : Instant) (fetched : Fetched) : Polling :=
  let poller := p.poller.receive fetched
  { p with
    poller
    stage := .pausing (wake t poller.wait)
    changed := p.changed || fetched.isOk
    lines := p.lines ++ p.poller.report fetched }

/-- The next fetch begins no earlier than an instant. -/
def holdUntil (p : Polling) (t : Instant) : Polling :=
  match p.stage with
  | .pausing due => { p with stage := .pausing (Nat.max t due) }
  | .idle | .broken | .fetching _ _ => p

/-- The fetch that is due at an instant begins, as the script has it. After the script all fetches
fail, and the clock does not stand still between them. -/
def fetch (p : Polling) (t : Instant) : Polling :=
  let p := { p with begun := p.begun ++ [t] }
  match p.script with
  | [] =>
    (p.bring t (.error (.feedFetch "script exhausted"))).holdUntil (t + Span.ofMillis 1)
  | attempt :: rest =>
    let p := { p with script := rest }
    match attempt with
    | .body text => p.bring t (readPayload text)
    | .fails detail => p.bring t (.error (.feedFetch detail))
    | .slow delay text => { p with stage := .fetching (wake t delay) text }
    | .breaks => { p with stage := .broken }

/-- When something happens next, if polling runs. -/
def due? (p : Polling) : Option Instant :=
  match p.stage with
  | .idle | .broken => none
  | .pausing due | .fetching due _ => some due

/-- What is due happens. -/
def advance (p : Polling) : Polling :=
  match p.stage with
  | .idle | .broken => p
  | .pausing due => p.fetch due
  | .fetching due text => p.bring due (readPayload text)

/-- What is left to do before an instant: time, attempts, and the end of a fetch that is under
way. -/
def work (p : Polling) (finish : Instant) : Nat :=
  match p.stage with
  | .idle | .broken => 2 * (0 + p.script.length)
  | .pausing due => 2 * (finish - due + p.script.length)
  | .fetching due _ => 2 * (finish - due + p.script.length) + 1

theorem sub_wake_le (finish due : Nat) (span : Span) : finish - wake due span ≤ finish - due :=
  Nat.sub_le_sub_left (Nat.le_add_right _ _) finish

theorem sub_max_lt {finish due : Nat} (h : due < finish) (other : Nat) :
    finish - Nat.max (due + Span.ofMillis 1) other < finish - due := by
  have later : due + 1 ≤ Nat.max (due + Span.ofMillis 1) other :=
    Nat.le_trans (Nat.add_le_add_left (by decide) due) (Nat.le_max_left _ _)
  omega

theorem two_mul_add_lt {sooner left : Nat} (h : sooner ≤ left) (length : Nat) :
    2 * (sooner + length) + 1 < 2 * (left + (length + 1)) := by
  omega

theorem work_bring_le (p : Polling) (fetched : Fetched) (due finish : Instant) :
    (p.bring due fetched).work finish ≤ 2 * (finish - due + p.script.length) :=
  Nat.mul_le_mul_left 2 (Nat.add_le_add_right (sub_wake_le finish due _) _)

theorem work_fetch_lt (p : Polling) {due finish : Instant} (h : due < finish) :
    (p.fetch due).work finish < 2 * (finish - due + p.script.length) := by
  cases script : p.script with
  | nil =>
    have less := sub_max_lt h (wake due (p.poller.receive
      (.error (.feedFetch "script exhausted"))).wait)
    simp only [fetch, script, bring, holdUntil, work, List.length_nil]
    exact Nat.mul_lt_mul_of_pos_left (Nat.add_lt_add_right less 0) (by decide)
  | cons attempt rest =>
    have shorter := two_mul_add_lt (Nat.le_refl (finish - due)) rest.length
    cases attempt with
    | body text =>
      simp only [fetch, script]
      exact Nat.lt_of_le_of_lt (work_bring_le _ _ due finish) (Nat.lt_of_succ_lt shorter)
    | fails detail =>
      simp only [fetch, script]
      exact Nat.lt_of_le_of_lt (work_bring_le _ _ due finish) (Nat.lt_of_succ_lt shorter)
    | slow delay text =>
      simp only [fetch, script, work]
      exact two_mul_add_lt (sub_wake_le finish due delay) rest.length
    | breaks =>
      simp only [fetch, script, work]
      exact Nat.lt_of_succ_lt (two_mul_add_lt (Nat.zero_le _) rest.length)

theorem work_advance_lt (p : Polling) {due finish : Instant} (waiting : p.due? = some due)
    (h : due < finish) : p.advance.work finish < p.work finish := by
  cases stage : p.stage with
  | idle => simp [due?, stage] at waiting
  | broken => simp [due?, stage] at waiting
  | pausing next =>
    simp only [due?, stage, Option.some.injEq] at waiting
    subst waiting
    simpa only [advance, work, stage] using p.work_fetch_lt h
  | fetching next text =>
    simp only [due?, stage, Option.some.injEq] at waiting
    subst waiting
    simpa only [advance, work, stage] using
      Nat.lt_succ_of_le (p.work_bring_le (readPayload text) next finish)

/-- All that is due before an instant happens. -/
def runUntil (finish : Instant) (p : Polling) : Polling :=
  match _waiting : p.due? with
  | none => p
  | some due => if _h : due < finish then runUntil finish p.advance else p
termination_by p.work finish
decreasing_by exact p.work_advance_lt _waiting _h

/-- Let some time pass. -/
def pass (p : Polling) (span : Span) : Polling :=
  let finish := wake p.now span
  { p.runUntil finish with now := finish }

/-- Begin to poll, unless polling is under way; the first fetch is due at once. -/
def start (p : Polling) : Polling :=
  if p.stage.isRunning then p
  else
    { p with poller := p.poller.restart, stage := .pausing p.now }.write [p.poller.startLine]

/-- Stop polling, also if it has ended by itself; what is under way is dropped. -/
def stop (p : Polling) : Polling :=
  match p.stage with
  | .idle => p
  | .broken | .pausing _ | .fetching _ _ => { p with stage := .idle }.write [Poller.stopLine]

/-- As it is after it has been looked at. -/
def seen (p : Polling) : Polling := { p with begun := [], changed := false }

/-- The lines written so far, and the same without them. -/
def turnPage (p : Polling) : List LogLine × Polling := (p.lines, { p with lines := [] })

end Polling

end Feed

end QuoteKeeper
