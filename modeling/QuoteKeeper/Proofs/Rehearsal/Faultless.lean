import QuoteKeeper.Proofs.Rehearsal.Serving
import QuoteKeeper.Proofs.Venue.Answering

/-!
# Rehearsals without faults

Where no call is made to fail and no answer is cut short, every call of a rehearsed dialogue is
answered by the venue itself. The dialogue comes to its end, or the venue breaks down over a call;
then the dialogue has a path that makes this call next, after those that have been answered. The
reference prices are those that the feed was set to.
-/

namespace QuoteKeeper

open Dialogue

/-- Every dialogue can be brought to an end, whatever is answered. -/
theorem Dialogue.exists_path {α : Type} (d : Dialogue α) : ∃ t a, Path d t a := by
  have some : ∀ a : Act, Nonempty a.Answer := by
    intro a
    cases a with
    | call c => exact ⟨.error { root := "" }⟩
    | notify n => exact ⟨.ok ()⟩
    | feedRunning => exact ⟨true⟩
    | startFeed | stopFeed | log => exact ⟨()⟩
    | reference p => exact ⟨none⟩
  induction d with
  | done a => exact ⟨[], a, .done a⟩
  | act a next ih =>
    obtain ⟨r⟩ := some a
    obtain ⟨t, result, path⟩ := ih r
    exact ⟨⟨a, r⟩ :: t, result, .act path⟩

namespace Rehearsal

/-- No call is made to fail, by the script or at the venue, and no answer is cut short. -/
structure Faultless (r : Rehearsal) : Prop where
  unscripted : ∀ kind, r.script.get? kind = none
  uncut : r.cut = 0
  working : r.venue.failing = []

/-- What comes back of a call is what the venue answers. -/
inductive Told (r : Rehearsal) (c : Call) : Except Overflow c.Reply × Rehearsal → Prop
  | answer {r' : Rehearsal} {answered : Paper.Answered c.Answer}
      (answer : r.venue.answer c = .ok answered) (venue : r'.venue = answered.venue)
      (faultless : r'.Faultless) (calls : r'.minutes.calls = r.minutes.calls ++ [c]) :
      Told r c (.ok answered.reply, r')
  | broken {r' : Rehearsal} {e : Overflow} (broken : r.venue.answer c = .error e)
      (calls : r'.minutes.calls = r.minutes.calls ++ [c]) : Told r c (.error e, r')

variable {r : Rehearsal}

theorem Faultless.told (faultless : r.Faultless) (c : Call) : Told r c (r.call c) := by
  rw [Rehearsal.call]
  simp only [countDown, faultless.unscripted]
  cases answer : r.venue.answer c with
  | error e => exact .broken answer rfl
  | ok answered =>
    simp only [faultless.uncut, cutShort_zero]
    refine .answer answer rfl ⟨faultless.unscripted, rfl, ?_⟩ rfl
    exact (Paper.answer_market answer).failing.trans faultless.working

/-- A rehearsed dialogue has come to its end, with every call answered by the venue. -/
structure Ended {α : Type} (r : Rehearsal) (d : Dialogue α) (a : α) : Prop where
  result : (d.run world r).1 = .ok a
  answers : r.venue.Answers (d.transcript world r).calls (d.run world r).2.venue
  faultless : (d.run world r).2.Faultless
  calls : (d.run world r).2.minutes.calls =
    r.minutes.calls ++ (d.transcript world r).calls.map (·.1)

/-- The venue has broken down over a call of a dialogue. -/
structure Broken {α : Type} (r : Rehearsal) (d : Dialogue α) (done : List Exchange) (c : Call) :
    Prop where
  result : ∃ e, (d.run world r).1 = .error e
  next : ∃ (t : Transcript) (a : α) (reply : c.Reply) (more : List Exchange),
    Path d t a ∧ t.calls = done ++ ⟨c, reply⟩ :: more
  breaks : ∃ u e, r.venue.Answers done u ∧ u.answer c = .error e
  calls : (d.run world r).2.minutes.calls = r.minutes.calls ++ (done.map (·.1) ++ [c])

/-- An act that is not a call passes the venue by. -/
theorem passing {α : Type} {a : Act} {next : a.Answer → Dialogue α} {reply : a.Answer}
    {r' : Rehearsal} (step : world a r = (.ok reply, r')) (venue : r'.venue = r.venue)
    (same : r'.minutes.calls = r.minutes.calls)
    (silent : ∀ t, Transcript.calls (⟨a, reply⟩ :: t) = Transcript.calls t)
    (later : (∃ x, Ended r' (next reply) x) ∨ ∃ done c, Broken r' (next reply) done c) :
    (∃ x, Ended r (act a next) x) ∨ ∃ done c, Broken r (act a next) done c := by
  have goesOn : (act a next).run world r = (next reply).run world r' := by
    rw [Dialogue.run, step]
  have wrote : (act a next).transcript world r =
      ⟨a, reply⟩ :: (next reply).transcript world r' := by
    rw [transcript, step]
  rcases later with ⟨x, ended⟩ | ⟨done, c, broken⟩
  · refine Or.inl ⟨x, ?_, ?_, ?_, ?_⟩
    · rw [goesOn, ended.result]
    · rw [goesOn, wrote, silent, ← venue]
      exact ended.answers
    · rw [goesOn]
      exact ended.faultless
    · rw [goesOn, wrote, silent, ended.calls, same]
  · obtain ⟨t, x, answer, more, path, made⟩ := broken.next
    refine Or.inr ⟨done, c, ?_, ⟨⟨a, reply⟩ :: t, x, answer, more, .act path, ?_⟩, ?_, ?_⟩
    · rw [goesOn]
      exact broken.result
    · rw [silent, made]
    · rw [← venue]
      exact broken.breaks
    · rw [goesOn, broken.calls, same]

/-- A call that is answered comes before the calls of what follows. -/
theorem answering {α : Type} {c : Call} {next : Except CallError c.Answer → Dialogue α}
    {answered : Paper.Answered c.Answer} {r' : Rehearsal}
    (called : r.call c = (.ok answered.reply, r')) (answer : r.venue.answer c = .ok answered)
    (venue : r'.venue = answered.venue) (calls : r'.minutes.calls = r.minutes.calls ++ [c])
    (later : (∃ x, Ended r' (next answered.reply) x) ∨
      ∃ done d, Broken r' (next answered.reply) done d) :
    (∃ x, Ended r (act (.call c) next) x) ∨ ∃ done d, Broken r (act (.call c) next) done d := by
  have goesOn : (act (.call c) next).run world r = (next answered.reply).run world r' := by
    rw [Dialogue.run, world, called]
  have wrote : (act (.call c) next).transcript world r =
      ⟨.call c, answered.reply⟩ :: (next answered.reply).transcript world r' := by
    rw [transcript, world, called]
  rcases later with ⟨x, ended⟩ | ⟨done, d, broken⟩
  · refine Or.inl ⟨x, ?_, ?_, ?_, ?_⟩
    · rw [goesOn, ended.result]
    · rw [goesOn, wrote]
      exact .cons answer (venue ▸ ended.answers)
    · rw [goesOn]
      exact ended.faultless
    · rw [goesOn, wrote, ended.calls, calls, List.append_assoc]
      rfl
  · obtain ⟨t, x, reply, more, path, made⟩ := broken.next
    obtain ⟨u, e, answers, breaks⟩ := broken.breaks
    refine Or.inr ⟨⟨c, answered.reply⟩ :: done, d, ?_, ⟨_, x, reply, more, .act path, ?_⟩,
      ⟨u, e, .cons answer (venue ▸ answers), breaks⟩, ?_⟩
    · rw [goesOn]
      exact broken.result
    · rw [Transcript.calls_call, made]
      rfl
    · rw [goesOn, broken.calls, calls, List.append_assoc]
      rfl

theorem Faultless.run (faultless : r.Faultless) {α : Type} (d : Dialogue α) :
    (∃ a, Ended r d a) ∨ ∃ done c, Broken r d done c := by
  induction d generalizing r with
  | done a => exact Or.inl ⟨a, rfl, .nil _, faultless, (List.append_nil _).symm⟩
  | act a next ih =>
    cases a with
    | call c =>
      have told := faultless.told c
      generalize called : r.call c = result at told
      cases told with
      | @answer r' answered answer venue still calls =>
        exact answering called answer venue calls (ih answered.reply still)
      | @broken r' e broken calls =>
        obtain ⟨t, a, path⟩ := exists_path (next (.error { root := "" }))
        refine Or.inr ⟨[], c, ⟨e, ?_⟩, ⟨_, a, _, Transcript.calls t, .act path, rfl⟩,
          ⟨_, e, .nil _, broken⟩, ?_⟩
        · rw [Dialogue.run, world, called]
        · rw [Dialogue.run, world, called]
          exact calls
    | notify n =>
      exact passing rfl rfl rfl (fun _ => rfl)
        (@ih _ (r.notify n).2 ⟨faultless.unscripted, faultless.uncut, faultless.working⟩)
    | feedRunning =>
      exact passing rfl rfl rfl (fun _ => rfl)
        (@ih _ { r with feed.asked := r.feed.asked + 1 }
          ⟨faultless.unscripted, faultless.uncut, faultless.working⟩)
    | startFeed =>
      exact passing rfl rfl rfl (fun _ => rfl)
        (@ih _ { r with feed.running := true, feed.starts := r.feed.starts + 1 }
          ⟨faultless.unscripted, faultless.uncut, faultless.working⟩)
    | stopFeed =>
      exact passing rfl rfl rfl (fun _ => rfl)
        (@ih _ { r with feed.running := false, feed.stops := r.feed.stops + 1 }
          ⟨faultless.unscripted, faultless.uncut, faultless.working⟩)
    | reference p => exact passing rfl rfl rfl (fun _ => rfl) (@ih _ r faultless)
    | log line =>
      exact passing rfl rfl rfl (fun _ => rfl)
        (@ih _ (r.write [line]) ⟨faultless.unscripted, faultless.uncut, faultless.working⟩)

theorem Faultless.ended (faultless : r.Faultless) {α : Type} {d : Dialogue α} {a : α}
    (result : (d.run world r).1 = .ok a) : Ended r d a := by
  rcases faultless.run d with ⟨b, ended⟩ | ⟨done, c, broken⟩
  · obtain rfl := Except.ok.inj (ended.result.symm.trans result)
    exact ended
  · obtain ⟨e, breaks⟩ := broken.result
    exact nomatch breaks.symm.trans result

/-! ### The feed -/

theorem call_feed (r : Rehearsal) (c : Call) : (r.call c).2.feed = r.feed := by
  rw [Rehearsal.call]
  have counted : ∀ r : Rehearsal, (r.countDown c.kind).2.feed = r.feed := by
    intro r
    rw [countDown]
    split <;> rfl
  dsimp only
  split
  · exact counted _
  · split
    · exact counted _
    · exact counted _

/-- The feed keeps its book, and every reference price is from it. -/
theorem references_told {α : Type} (d : Dialogue α) (r : Rehearsal) :
    (d.run world r).2.feed.book = r.feed.book ∧
      ∀ e ∈ (d.transcript world r).references, e.2 = r.feed.book.get? e.1 := by
  induction d generalizing r with
  | done a => exact ⟨rfl, List.forall_mem_nil _⟩
  | act a next ih =>
    rw [transcript, Dialogue.run]
    cases a with
    | call c =>
      have kept := call_feed r c
      simp only [world]
      rcases called : r.call c with ⟨_ | reply, r'⟩
      · rw [called] at kept
        exact ⟨congrArg _ kept, List.forall_mem_nil _⟩
      · rw [called] at kept
        dsimp only at kept
        have later := ih reply r'
        rw [kept] at later
        exact later
    | notify n => exact ih _ (r.notify n).2
    | feedRunning => exact ih _ { r with feed.asked := r.feed.asked + 1 }
    | startFeed => exact ih _ { r with feed.running := true, feed.starts := r.feed.starts + 1 }
    | stopFeed => exact ih _ { r with feed.running := false, feed.stops := r.feed.stops + 1 }
    | reference p =>
      obtain ⟨kept, told⟩ := ih (r.feed.book.get? p) r
      exact ⟨kept, List.forall_mem_cons.mpr ⟨rfl, told⟩⟩
    | log line => exact ih _ (r.write [line])

end Rehearsal

end QuoteKeeper
