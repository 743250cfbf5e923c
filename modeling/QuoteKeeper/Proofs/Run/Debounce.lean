import QuoteKeeper.Proofs.Cycle.Stamps
import QuoteKeeper.Proofs.Run.Moments

/-!
# Intervals between proposals

Over a whole run, with the cycles at any times in any order and with fills noted in between: two
cycles with candidates for one pair are at least the reorder interval apart, the earlier before the
later, and none is before the first interval of the keeper is over. The action times of a pair are
those of the last cycles that had candidates for it and that canceled on it.
-/

namespace QuoteKeeper

open Dialogue

/-- The times of the cycles with candidates for a pair. -/
def proposalsOn (p : Pair) (turns : List Turn) : List Instant :=
  (turns.filter fun turn => turn.transcript.proposesOn p).map (·.now)

/-- The times of the cycles that canceled, or tried to cancel, on a pair. -/
def cancelsOn (p : Pair) (turns : List Turn) : List Instant :=
  (turns.filter fun turn => turn.transcript.cancelsOn p).map (·.now)

theorem proposalsOn_cons (p : Pair) (turn : Turn) (turns : List Turn) :
    proposalsOn p (turn :: turns) =
      if turn.transcript.proposesOn p then turn.now :: proposalsOn p turns
      else proposalsOn p turns := by
  by_cases proposes : turn.transcript.proposesOn p = true
  · simp [proposalsOn, proposes]
  · simp [proposalsOn, proposes]

theorem cancelsOn_cons (p : Pair) (turn : Turn) (turns : List Turn) :
    cancelsOn p (turn :: turns) =
      if turn.transcript.cancelsOn p then turn.now :: cancelsOn p turns else cancelsOn p turns := by
  by_cases cancels : turn.transcript.cancelsOn p = true
  · simp [cancelsOn, cancels]
  · simp [cancelsOn, cancels]

/-- Each of the times is at least the interval after the one to start from and after every earlier
one. -/
structure Debounced (interval : Span) (last : Instant) (times : List Instant) : Prop where
  apart : times.Pairwise fun earlier later => earlier + interval ≤ later
  started : ∀ now ∈ times, last + interval ≤ now

theorem Debounced.nil (interval : Span) (last : Instant) : Debounced interval last [] where
  apart := List.Pairwise.nil
  started := List.forall_mem_nil _

theorem Debounced.cons {interval : Span} {last now : Instant} {times : List Instant}
    (ready : last + interval ≤ now) (later : Debounced interval now times) :
    Debounced interval last (now :: times) where
  apart := List.pairwise_cons.mpr ⟨later.started, later.apart⟩
  started := by
    intro t member
    rcases List.mem_cons.mp member with rfl | listed
    · exact ready
    · have after := later.started t listed
      exact Nat.le_trans ready (Nat.le_trans (Nat.le_add_right now interval) after)

/-- A small market where a buy rests above the reference and whatever is placed is refused. -/
def Rehearsal.smallRefusing : Rehearsal :=
  { smallStuck with venue := (smallStuck.venue.setFailing .cancel false).setFailing .place true }

namespace Keeper

/-- The keeper goes through some cycles, one after the other, and takes note of fills meanwhile. -/
inductive Lives : Keeper → List Turn → Keeper → Prop
  | stay (k : Keeper) : Lives k [] k
  | turn {k k' k'' : Keeper} {turn : Turn} {turns : List Turn} {s : CycleSummary}
      (path : Path (k.cycle turn.now) turn.transcript (s, k')) (later : Lives k' turns k'') :
      Lives k (turn :: turns) k''
  | fill {k k' k'' : Keeper} {f : Fill} {t : Transcript} {turns : List Turn}
      (path : Path (k.fill f) t k') (later : Lives k' turns k'') : Lives k turns k''

theorem Runs.lives {k k' : Keeper} {turns : List Turn} (runs : Runs k turns k') :
    Lives k turns k' := by
  induction runs with
  | stay k => exact .stay k
  | turn path later ih => exact .turn path ih

/-- To take note of a fill changes the totals only. -/
theorem fill_kept {k k' : Keeper} {f : Fill} {t : Transcript} (path : Path (k.fill f) t k') :
    k'.settings = k.settings ∧ k'.cooldown = k.cooldown := by
  obtain ⟨logged, rfl, goesOn⟩ := path_log_iff.mp path
  obtain ⟨sent, u, rest, rfl, sends, ends⟩ := path_bind_iff.mp goesOn
  obtain ⟨-, rfl⟩ := path_pure_iff.mp ends
  exact ⟨rfl, rfl⟩

theorem cycle_stamped {k k' : Keeper} {now : Instant} {t : Transcript} {s : CycleSummary}
    (path : Path (k.cycle now) t (s, k')) (p : Pair) :
    Progress.Stamped k.settings now p (t.proposesOn p) (t.cancelsOn p) k.cooldown k'.cooldown := by
  obtain ⟨progress, course, -, rfl⟩ := cycle_course path
  exact course.stamped p

/-- A run from any action times. The first cycle decides from which time on the others count. -/
theorem Lives.debounced {k k' : Keeper} {turns : List Turn} (lives : Lives k turns k') (p : Pair) :
    Debounced k.settings.reorder (k.cooldown.lastOrder p) (proposalsOn p turns) ∧
      k'.cooldown.lastOrder p = (proposalsOn p turns).getLast?.getD (k.cooldown.lastOrder p) ∧
      k'.cooldown.lastCancel? p = (cancelsOn p turns).getLast?.or (k.cooldown.lastCancel? p) := by
  induction lives with
  | stay k => exact ⟨.nil _ _, rfl, rfl⟩
  | fill path later ih =>
    obtain ⟨settings, cooldown⟩ := fill_kept path
    rw [settings, cooldown] at ih
    exact ih
  | @turn k k' k'' turn turns s path later ih =>
    obtain ⟨ready, ordered, canceled⟩ := cycle_stamped path p
    obtain ⟨debounced, lastOrder, lastCancel⟩ := ih
    rw [cycle_settings path, ordered] at debounced
    rw [ordered] at lastOrder
    rw [canceled] at lastCancel
    rw [proposalsOn_cons, cancelsOn_cons, lastOrder, lastCancel]
    refine ⟨?_, ?_, ?_⟩
    · by_cases proposes : turn.transcript.proposesOn p = true
      · rw [if_pos proposes] at debounced ⊢
        exact debounced.cons (ready proposes)
      · rw [if_neg proposes] at debounced ⊢
        exact debounced
    · by_cases proposes : turn.transcript.proposesOn p = true
      · simp [proposes, List.getLast?_cons]
      · simp [proposes]
    · by_cases cancels : turn.transcript.cancelsOn p = true
      · cases last : (cancelsOn p turns).getLast? with
        | none => simp [cancels, List.getLast?_cons, last]
        | some now => simp [cancels, List.getLast?_cons, last]
      · simp [cancels]

/-- From the creation of a keeper on, whatever the times of its cycles are: of any two cycles with
candidates for a pair the later one is at least the interval after the earlier one, each is at least
the interval after the creation, and the action times of the pair are those of the last cycles with
candidates for it and with cancels on it. -/
theorem run_debounced {settings : Settings} {created : Instant} {k' : Keeper} {turns : List Turn}
    (lives : (start settings created).Lives turns k') (p : Pair) :
    (proposalsOn p turns).Pairwise (fun earlier later => earlier + settings.reorder ≤ later) ∧
      (∀ now ∈ proposalsOn p turns, created + settings.reorder ≤ now) ∧
      k'.cooldown.lastOrder p = (proposalsOn p turns).getLast?.getD created ∧
      k'.cooldown.lastCancel? p = (cancelsOn p turns).getLast? := by
  obtain ⟨debounced, lastOrder, lastCancel⟩ := lives.debounced p
  refine ⟨debounced.apart, debounced.started, lastOrder, ?_⟩
  rw [lastCancel]
  exact Option.or_none

/-- A buy above the reference is canceled, then candidates are refused by the venue twice; the clock
goes back in between. -/
theorem run_debounced_refused : ∃ turns k',
    Keeper.small.Lives turns k' ∧
    turns.map (·.now) = [5, 6, 4, 8, 11].map Span.ofSeconds ∧
    proposalsOn ⟨"X", "BTC"⟩ turns = [6, 11].map Span.ofSeconds ∧
    cancelsOn ⟨"X", "BTC"⟩ turns = [Span.ofSeconds 5] ∧
    (proposalsOn ⟨"X", "BTC"⟩ turns).Pairwise
      (fun earlier later => earlier + Keeper.small.settings.reorder ≤ later) ∧
    (∀ now ∈ proposalsOn ⟨"X", "BTC"⟩ turns, 0 + Keeper.small.settings.reorder ≤ now) ∧
    k'.cooldown.lastOrder ⟨"X", "BTC"⟩ = Span.ofSeconds 11 ∧
    k'.cooldown.lastCancel? ⟨"X", "BTC"⟩ = some (Span.ofSeconds 5) := by
  have shown : (Rehearsal.cycles Keeper.small Rehearsal.smallRefusing
      ([5, 6, 4, 8, 11].map Span.ofSeconds)).toOption.map (fun last =>
        (last.1.map (·.now), proposalsOn ⟨"X", "BTC"⟩ last.1, cancelsOn ⟨"X", "BTC"⟩ last.1)) =
      some ([5, 6, 4, 8, 11].map Span.ofSeconds, [6, 11].map Span.ofSeconds,
        [Span.ofSeconds 5]) := by
    decide +kernel
  cases done : Rehearsal.cycles Keeper.small Rehearsal.smallRefusing
      ([5, 6, 4, 8, 11].map Span.ofSeconds) with
  | error e =>
    rw [done] at shown
    exact nomatch shown
  | ok last =>
    rw [done] at shown
    obtain ⟨turns, k', r'⟩ := last
    obtain ⟨runs, -⟩ := Rehearsal.cycles_runs rfl done
    obtain ⟨times, others⟩ := Prod.mk.inj (Option.some.inj shown)
    obtain ⟨proposals, cancels⟩ := Prod.mk.inj others
    obtain ⟨apart, started, ordered, canceled⟩ := run_debounced runs.lives ⟨"X", "BTC"⟩
    refine ⟨turns, k', runs.lives, times, proposals, cancels, apart, started, ?_, ?_⟩
    · rw [ordered, proposals]
      rfl
    · rw [canceled, cancels]
      rfl

end Keeper

end QuoteKeeper
