import QuoteKeeper.Keeper.Loop
import QuoteKeeper.Proofs.Cycle.Accounts
import QuoteKeeper.Proofs.Dialogue.Deeds

/-!
# Serving events

Until an event stops it the loop runs a cycle for each tick, takes note of each fill it receives,
and does nothing else: it says so for each fill once, in their order, and it never stops the feed.
Its cycles have the numbers that follow one another. How the notices fare makes no difference to
what it does, to the summaries and to the action times.
-/

namespace QuoteKeeper

open Dialogue

namespace Event

/-- Whether the loop ends with the event. -/
def stops : Event → Bool
  | stopSignal on => on
  | signalDropped => true
  | tick _ | fill _ | fillsClosed => false

def isTick : Event → Bool
  | tick _ => true
  | fill _ | fillsClosed | stopSignal _ | signalDropped => false

/-- The fills that are received: none once they are closed. -/
def received : Bool → List Event → List Fill
  | _, [] => []
  | true, fill f :: rest => f :: received true rest
  | false, fill _ :: rest => received false rest
  | _, fillsClosed :: rest => received false rest
  | fillsOpen, tick _ :: rest | fillsOpen, stopSignal _ :: rest
  | fillsOpen, signalDropped :: rest => received fillsOpen rest

end Event

/-- The fill that a notice tells of, and the venue it names. -/
def Notice.filled? : Notice → Option (String × Fill)
  | .fill venue f => some (venue, f)
  | .cycle _ _ => none

namespace Transcript

/-- The fills that are told of, in order, with the venue that is named. -/
def filled (t : Transcript) : List (String × Fill) := t.notices.filterMap Notice.filled?

@[simp] theorem filled_append (s t : Transcript) : filled (s ++ t) = filled s ++ filled t := by
  rw [filled, notices_append, List.filterMap_append]
  rfl

/-- How often the feed is stopped. -/
def stops (t : Transcript) : Nat := (t.map (·.1)).count .stopFeed

@[simp] theorem stops_append (s t : Transcript) : stops (s ++ t) = stops s + stops t := by
  rw [stops, List.map_append, List.count_append]
  rfl

end Transcript

/-! ### A single cycle, a single fill -/

/-- A summary bears the number of its cycle. -/
theorem Progress.Course.number {settings : Settings} {cycle : Nat} {cooldown : Cooldown}
    {now : Instant} {t : Transcript} {s : Progress}
    (course : Course settings cycle cooldown now t s) : s.summary.cycle = cycle := by
  cases course with
  | starting | aborted => rfl
  | ran feed made order read shown phases announced =>
    cases phases with
    | unprofitable | outbid | proposed => rfl

namespace Keeper

variable {k k' : Keeper} {t : Transcript}

theorem cycle_moves {now : Instant} {s : CycleSummary} (path : Path (k.cycle now) t (s, k')) :
    s.cycle = k.cycles + 1 ∧ k'.settings = k.settings ∧ k'.cycles = k.cycles + 1 ∧
      k'.totals = k.totals.absorb s ∧ t.filled = [] ∧ t.stops = 0 := by
  obtain ⟨first, progress, rest, rfl, goes, reports, rfl, rfl⟩ := cycle_path_iff.mp path
  have number := (Progress.ofCycle_course goes).number
  refine ⟨number, rfl, rfl, rfl, ?_, ?_⟩
  · rw [Transcript.filled, Transcript.notices_append, Progress.ofCycle_notices goes,
      report_notices reports]
    split
    · rfl
    · rfl
  · have unstopped : Transcript.stops rest = 0 := by
      obtain ⟨after, rfl, goesOn⟩ := path_log_iff.mp reports
      split at goesOn
      · exact (send_path goesOn).2.2
      · obtain ⟨rfl, -⟩ := path_pure_iff.mp goesOn
        rfl
    obtain ⟨on, after, rfl, plain⟩ := (Progress.ofCycle_path_iff k.settings now).mp goes
    have silent := (Progress.afterFeed_plain k.settings now _ _ on).unstopped plain
    rw [Transcript.stops_append, unstopped]
    exact silent

theorem fill_moves {f : Fill} (path : Path (k.fill f) t k') :
    k' = { k with totals := { k.totals with fills := k.totals.fills + 1 } } ∧
      t.filled = [(k.settings.venue, f)] ∧ t.stops = 0 ∧ t.calls = [] := by
  obtain ⟨rest, rfl, goesOn⟩ := path_log_iff.mp path
  obtain ⟨first, u, last, rfl, sends, ends⟩ := path_bind_iff.mp goesOn
  obtain ⟨rfl, rfl⟩ := path_pure_iff.mp ends
  obtain ⟨-, told, unstopped⟩ := send_path sends
  rw [List.append_nil]
  refine ⟨rfl, ?_, unstopped, (send_quiet sends).1⟩
  rw [Transcript.filled, Transcript.notices_log, told]
  rfl

end Keeper

/-! ### Until the loop is stopped -/

namespace Loop

/-- How events are served of which none stops the loop: what each cycle comes to, with the action
times after it, and the keeper afterwards. -/
inductive Served :
    Keeper → Bool → List Event → Transcript → List (CycleSummary × Cooldown) → Keeper → Prop
  | nil (k : Keeper) (fillsOpen : Bool) : Served k fillsOpen [] [] [] k
  | tick {k k₁ k' : Keeper} {fillsOpen : Bool} {now : Instant} {s : CycleSummary}
      {events : List Event} {t u : Transcript} {cycles : List (CycleSummary × Cooldown)}
      (path : Path (k.cycle now) t (s, k₁)) (later : Served k₁ fillsOpen events u cycles k') :
      Served k fillsOpen (.tick now :: events) (t ++ u) ((s, k₁.cooldown) :: cycles) k'
  | fill {k k₁ k' : Keeper} {f : Fill} {events : List Event} {t u : Transcript}
      {cycles : List (CycleSummary × Cooldown)} (path : Path (k.fill f) t k₁)
      (later : Served k₁ true events u cycles k') :
      Served k true (.fill f :: events) (t ++ u) cycles k'
  | unheard {k k' : Keeper} {f : Fill} {events : List Event} {t : Transcript}
      {cycles : List (CycleSummary × Cooldown)} (later : Served k false events t cycles k') :
      Served k false (.fill f :: events) t cycles k'
  | closed {k k' : Keeper} {fillsOpen : Bool} {events : List Event} {t : Transcript}
      {cycles : List (CycleSummary × Cooldown)} (later : Served k false events t cycles k') :
      Served k fillsOpen (.fillsClosed :: events) t cycles k'
  | lull {k k' : Keeper} {fillsOpen : Bool} {events : List Event} {t : Transcript}
      {cycles : List (CycleSummary × Cooldown)} (later : Served k fillsOpen events t cycles k') :
      Served k fillsOpen (.stopSignal false :: events) t cycles k'

variable {k k' : Keeper} {fillsOpen : Bool} {events : List Event} {t : Transcript}
  {cycles : List (CycleSummary × Cooldown)}

/-- After an event that does not stop it the loop runs on, and has served one event more. -/
theorem serve_goesOn {e : Event} {l : Loop} (goes : e.stops = false)
    (path : Path ((running k fillsOpen).serve e) t l) :
    ∃ k₁ stillOpen made, l = running k₁ stillOpen ∧
      ∀ {events : List Event} {u : Transcript} {cycles : List (CycleSummary × Cooldown)}
        {k' : Keeper}, Served k₁ stillOpen events u cycles k' →
          Served k fillsOpen (e :: events) (t ++ u) (made ++ cycles) k' := by
  cases e with
  | tick now =>
    obtain ⟨first, ⟨s, k₁⟩, rest, rfl, cycle, ends⟩ := path_bind_iff.mp path
    obtain ⟨rfl, rfl⟩ := path_pure_iff.mp ends
    rw [List.append_nil]
    exact ⟨k₁, fillsOpen, [(s, k₁.cooldown)], rfl, .tick cycle⟩
  | fill f =>
    cases fillsOpen with
    | true =>
      obtain ⟨first, k₁, rest, rfl, fill, ends⟩ := path_bind_iff.mp path
      obtain ⟨rfl, rfl⟩ := path_pure_iff.mp ends
      rw [List.append_nil]
      exact ⟨k₁, true, [], rfl, .fill fill⟩
    | false =>
      obtain ⟨rfl, rfl⟩ := path_pure_iff.mp path
      exact ⟨k, false, [], rfl, .unheard⟩
  | fillsClosed =>
    obtain ⟨rfl, rfl⟩ := path_pure_iff.mp path
    exact ⟨k, false, [], rfl, .closed⟩
  | stopSignal on =>
    obtain rfl : on = false := goes
    obtain ⟨rfl, rfl⟩ := path_pure_iff.mp path
    exact ⟨k, fillsOpen, [], rfl, .lull⟩
  | signalDropped => cases goes

/-- The events before the first that stops the loop are served, and then it is that one's turn. -/
theorem serveAll_served {before rest : List Event} {l : Loop}
    (going : ∀ e ∈ before, e.stops = false)
    (path : Path ((running k fillsOpen).serveAll (before ++ rest)) t l) :
    ∃ serving cycles k' stillOpen ending, t = serving ++ ending ∧
      Served k fillsOpen before serving cycles k' ∧
      Path ((running k' stillOpen).serveAll rest) ending l := by
  induction before generalizing k fillsOpen t with
  | nil => exact ⟨[], [], k, fillsOpen, t, rfl, .nil k fillsOpen, path⟩
  | cons e before ih =>
    obtain ⟨here, m, later, rfl, serves, goesOn⟩ := path_bind_iff.mp path
    obtain ⟨goes, others⟩ := List.forall_mem_cons.mp going
    obtain ⟨k₁, open₁, made, rfl, one⟩ := serve_goesOn goes serves
    obtain ⟨serving, cycles, k', stillOpen, ending, rfl, served, stops⟩ := ih others goesOn
    exact ⟨here ++ serving, made ++ cycles, k', stillOpen, ending, (List.append_assoc ..).symm,
      one served, stops⟩

namespace Served

theorem settings (served : Served k fillsOpen events t cycles k') : k'.settings = k.settings := by
  induction served with
  | nil => rfl
  | tick path later ih => rw [ih, (Keeper.cycle_moves path).2.1]
  | fill path later ih => rw [ih, (Keeper.fill_moves path).1]
  | unheard later ih | closed later ih | lull later ih => exact ih

/-- One cycle for each tick, numbered without gaps. -/
theorem numbers (served : Served k fillsOpen events t cycles k') :
    cycles.map (·.1.cycle) = List.range' (k.cycles + 1) (events.countP (·.isTick)) := by
  induction served with
  | nil => rfl
  | tick path later ih =>
    obtain ⟨number, -, next, -⟩ := Keeper.cycle_moves path
    rw [List.map_cons, ih, number, next, List.countP_cons_of_pos rfl, List.range'_succ]
  | fill path later ih =>
    rw [ih, (Keeper.fill_moves path).1, List.countP_cons_of_neg Bool.false_ne_true]
  | unheard later ih | closed later ih | lull later ih =>
    rw [ih, List.countP_cons_of_neg Bool.false_ne_true]

/-- Each fill that is received is told of once, in their order. -/
theorem filled (served : Served k fillsOpen events t cycles k') :
    t.filled = (Event.received fillsOpen events).map (k.settings.venue, ·) := by
  induction served with
  | nil => rfl
  | tick path later ih =>
    obtain ⟨-, settings, -, -, untold, -⟩ := Keeper.cycle_moves path
    rw [Transcript.filled_append, untold, ih, settings]
    rfl
  | fill path later ih =>
    obtain ⟨rfl, told, -⟩ := Keeper.fill_moves path
    rw [Transcript.filled_append, told, ih]
    rfl
  | unheard later ih | lull later ih => exact ih
  | closed later ih =>
    rw [ih, Event.received]

theorem stops (served : Served k fillsOpen events t cycles k') : t.stops = 0 := by
  induction served with
  | nil => rfl
  | tick path later ih =>
    rw [Transcript.stops_append, ih, (Keeper.cycle_moves path).2.2.2.2.2]
  | fill path later ih =>
    rw [Transcript.stops_append, ih, (Keeper.fill_moves path).2.2.1]
  | unheard later ih | closed later ih | lull later ih => exact ih

/-- If what the loop does is answered alike, it does the same, and each cycle comes to the same,
however the notices fare. -/
theorem unique {k'' : Keeper} {t' u u' : Transcript} {cycles' : List (CycleSummary × Cooldown)}
    (served : Served k fillsOpen events t cycles k')
    (served' : Served k fillsOpen events t' cycles' k'')
    (alike : AnsweredAlike (t.deeds ++ u) (t'.deeds ++ u')) :
    t'.deeds = t.deeds ∧ cycles' = cycles ∧ k'' = k' ∧ AnsweredAlike u u' := by
  induction served generalizing t' cycles' k'' with
  | nil =>
    cases served'
    exact ⟨rfl, rfl, rfl, alike⟩
  | tick path later ih =>
    cases served' with
    | tick path' later' =>
      rw [Transcript.deeds_append, Transcript.deeds_append, List.append_assoc,
        List.append_assoc] at alike
      obtain ⟨same, result, alike⟩ := Keeper.cycle_determined _ _ path path' alike
      obtain ⟨rfl, rfl⟩ := Prod.mk.inj result
      obtain ⟨same', rfl, last, later⟩ := ih later' alike
      exact ⟨by rw [Transcript.deeds_append, Transcript.deeds_append, same, same'], rfl, last,
        later⟩
  | fill path later ih =>
    cases served' with
    | fill path' later' =>
      rw [Transcript.deeds_append, Transcript.deeds_append, List.append_assoc,
        List.append_assoc] at alike
      obtain ⟨same, rfl, alike⟩ := Keeper.fill_determined _ _ path path' alike
      obtain ⟨same', rfl, last, later⟩ := ih later' alike
      exact ⟨by rw [Transcript.deeds_append, Transcript.deeds_append, same, same'], rfl, last,
        later⟩
  | unheard later ih =>
    cases served' with
    | unheard later' => exact ih later' alike
  | closed later ih =>
    cases served' with
    | closed later' => exact ih later' alike
  | lull later ih =>
    cases served' with
    | lull later' => exact ih later' alike

end Served

end Loop

end QuoteKeeper
