import QuoteKeeper.Proofs.Venue.Serving
import QuoteKeeper.Rehearsal.Basic

/-!
# Rehearsals use the venue as it is

The calls of a rehearsed dialogue, with the answers that the script lets through, are a use of the
paper venue from the state it had to the state it has afterwards, as long as no budget answer is cut
short.
-/

namespace QuoteKeeper

open Dialogue

namespace Rehearsal

theorem countDown_venue (r : Rehearsal) (kind : CallKind) :
    (r.countDown kind).2.venue = r.venue := by
  rw [countDown]
  split <;> rfl

theorem countDown_cut (r : Rehearsal) (kind : CallKind) : (r.countDown kind).2.cut = r.cut := by
  rw [countDown]
  split <;> rfl

theorem cutShort_zero (c : Call) (reply : c.Reply) : cutShort 0 c reply = reply := by
  cases c with
  | budgetAdjust batch allOrNone =>
    cases reply with
    | error e => rfl
    | ok accepted => exact congrArg Except.ok (List.take_length)
  | topOfBook | openOrders | balance | cancel | place => rfl

/-- What comes back of a call, and what has become of the venue. -/
inductive Returned (r : Rehearsal) (c : Call) : Except Overflow c.Reply × Rehearsal → Prop
  | fault {r' : Rehearsal} (e : CallError) (venue : r'.venue = r.venue) (cut : r'.cut = r.cut) :
      Returned r c (.ok (.error e), r')
  | answer {r' : Rehearsal} {answered : Paper.Answered c.Answer}
      (answer : r.venue.answer c = .ok answered) (venue : r'.venue = answered.venue)
      (cut : r'.cut = r.cut) : Returned r c (.ok answered.reply, r')
  | broken {r' : Rehearsal} (e : Overflow) (venue : r'.venue = r.venue) (cut : r'.cut = r.cut) :
      Returned r c (.error e, r')

theorem call_returned {r : Rehearsal} (uncut : r.cut = 0) (c : Call) :
    Returned r c (r.call c) := by
  rw [Rehearsal.call]
  dsimp only
  split
  · exact .fault _ (countDown_venue _ _) (countDown_cut _ _)
  · rw [countDown_venue]
    split
    next e broken => exact .broken e (countDown_venue _ _) (countDown_cut _ _)
    next answered answer =>
      rw [countDown_cut, uncut, cutShort_zero]
      exact .answer answer rfl uncut.symm

theorem serves {α : Type} {d : Dialogue α} {r : Rehearsal} (uncut : r.cut = 0) :
    r.venue.Serves (d.transcript world r).calls (d.run world r).2.venue ∧
      (d.run world r).2.cut = 0 := by
  induction d generalizing r with
  | done a => exact ⟨.idle _, uncut⟩
  | act a next ih =>
    rw [transcript, Dialogue.run]
    cases a with
    | call c =>
      have returned := call_returned uncut c
      simp only [world]
      generalize r.call c = result at returned
      cases returned with
      | fault e venue cut =>
        obtain ⟨later, left⟩ := ih _ (cut.trans uncut)
        exact ⟨.fault e (venue ▸ later), left⟩
      | answer answer venue cut =>
        obtain ⟨later, left⟩ := ih _ (cut.trans uncut)
        exact ⟨.call answer (venue ▸ later), left⟩
      | broken e venue cut => exact ⟨venue ▸ .idle _, cut.trans uncut⟩
    | notify n => exact @ih _ (r.notify n).2 uncut
    | feedRunning => exact @ih _ { r with feed.asked := r.feed.asked + 1 } uncut
    | startFeed =>
      exact @ih _ { r with feed.running := true, feed.starts := r.feed.starts + 1 } uncut
    | stopFeed =>
      exact @ih _ { r with feed.running := false, feed.stops := r.feed.stops + 1 } uncut
    | reference p => exact @ih _ r uncut
    | log line => exact @ih _ (r.write [line]) uncut

/-! ### A small market -/

/-- A venue with one pair and money for both of its sides, and a feed that knows the pair. -/
def small : Rehearsal where
  venue :=
    { balances := ⟨[("X", 100.0), ("BTC", 1.0)]⟩
      books := ⟨[(⟨"X", "BTC"⟩, ⟨0.00098, 0.00112⟩)]⟩ }
  feed := { book := ⟨[(⟨"X", "BTC"⟩, ⟨0.0010, 0.0011⟩)]⟩ }

/-- The same with a buy resting above the reference, and cancels that fail. -/
def smallStuck : Rehearsal :=
  let r := (small.seed { pair := ⟨"X", "BTC"⟩, side := .buy, price := 0.0011, amount := 1.0 }).2
  { r with venue := r.venue.setFailing .cancel true }

end Rehearsal

/-- A keeper of the one pair, otherwise with the default settings. -/
def Keeper.small : Keeper := Keeper.start { Settings.default with pairs := [⟨"X", "BTC"⟩] } 0

/-- What its cycle says where it is stuck. -/
def Rehearsal.stuckTranscript : Transcript :=
  (Keeper.small.cycle (Span.ofSeconds 5)).transcript world smallStuck

theorem Rehearsal.stuckTranscript_path :
    ∃ s k', Path (Keeper.small.cycle (Span.ofSeconds 5)) stuckTranscript (s, k') := by
  have ended : ((Keeper.small.cycle (Span.ofSeconds 5)).run world smallStuck).1.toOption.any
      (fun _ => true) = true := by
    decide +kernel
  obtain ⟨⟨s, k'⟩, path, -⟩ := path_transcript_of_run ended
  exact ⟨s, k', path⟩

/-- The pair in a row of three, of which the first has no book and the last one like its own; what
is placed is refused. -/
def Rehearsal.smallRow : Rehearsal where
  venue :=
    { balances := ⟨[("X", 100.0), ("Z", 100.0), ("BTC", 1.0)]⟩
      books := ⟨[(⟨"X", "BTC"⟩, ⟨0.00098, 0.00112⟩), (⟨"Z", "BTC"⟩, ⟨0.00098, 0.00112⟩)]⟩
      failing := [.place] }
  feed :=
    { book := ⟨[(⟨"W", "BTC"⟩, ⟨0.0010, 0.0011⟩), (⟨"X", "BTC"⟩, ⟨0.0010, 0.0011⟩),
        (⟨"Z", "BTC"⟩, ⟨0.0010, 0.0011⟩)]⟩ }

/-- A keeper of the three pairs. -/
def Keeper.smallRow : Keeper :=
  Keeper.start
    { Settings.default with pairs := [⟨"W", "BTC"⟩, ⟨"X", "BTC"⟩, ⟨"Z", "BTC"⟩] } 0

/-- What its cycle says. -/
def Rehearsal.rowTranscript : Transcript :=
  (Keeper.smallRow.cycle (Span.ofSeconds 5)).transcript world smallRow

/-- It comes to its end, with two orders that are refused and a pair that is put off. -/
theorem Rehearsal.rowTranscript_path :
    ∃ s k', Path (Keeper.smallRow.cycle (Span.ofSeconds 5)) rowTranscript (s, k') ∧
      s.outcome = .completed ∧ s.placeFailures = 2 ∧ s.skips.count = 1 := by
  have ended : ((Keeper.smallRow.cycle (Span.ofSeconds 5)).run world smallRow).1.toOption.any
      (fun result => decide (result.1.outcome = .completed ∧ result.1.placeFailures = 2 ∧
        result.1.skips.count = 1)) = true := by
    decide +kernel
  obtain ⟨⟨s, k'⟩, path, tested⟩ := path_transcript_of_run ended
  exact ⟨s, k', path, of_decide_eq_true tested⟩

end QuoteKeeper
