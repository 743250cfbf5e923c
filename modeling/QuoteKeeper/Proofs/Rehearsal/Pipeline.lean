import QuoteKeeper.Proofs.Loop.Ending
import QuoteKeeper.Proofs.Rehearsal.Faultless
import QuoteKeeper.Proofs.Rehearsal.Offering
import QuoteKeeper.Proofs.Venue.Conservation
import Mathlib.Logic.Relation

/-!
# From the venue to the notices

The venue fills orders while the loop goes about its acts, and the channel for the fills stands
between the two. Between any two acts of the loop anything can happen at the venue. Of what it fills
the channel takes the beginning that fits; of that the loop tells in the same order and once, except
of what is still in the channel when the loop is over.
-/

namespace QuoteKeeper

open Dialogue

/-- Whether the loop has ended or has broken down. -/
def Loop.isOver : Loop → Bool
  | running _ _ => false
  | ended _ | broken => true

/-- Whether an event comes out of the channel. -/
def Event.isOfFills : Event → Bool
  | fill _ | fillsClosed => true
  | tick _ | stopSignal _ | signalDropped => false

/-- The fills that are told of. -/
def Transcript.told (t : Transcript) : List Fill := t.filled.map (·.2)

@[simp] theorem Transcript.told_append (s t : Transcript) : told (s ++ t) = told s ++ told t := by
  rw [told, filled_append, List.map_append]
  rfl

/-! ### What the loop still has to tell -/

namespace Dialogue

variable {α : Type}

/-- However the dialogue goes on, these fills are told of; and if there are any, the venue is not
called any more. -/
def Pending (d : Dialogue α) (fills : List Fill) : Prop :=
  ∀ ⦃t : Transcript⦄ ⦃a : α⦄, Path d t a → t.told = fills ∧ (fills ≠ [] → t.calls = [])

theorem pending_done (a : α) : Pending (done a) [] := by
  intro t b path
  cases path
  exact ⟨rfl, fun some => absurd rfl some⟩

theorem Pending.eq_nil {a : α} {fills : List Fill} (pending : Pending (done a) fills) :
    fills = [] :=
  (pending (.done a)).1.symm

/-- An act tells of the first of them, or of none. -/
theorem Pending.act {a : Act} {next : a.Answer → Dialogue α} {fills : List Fill}
    (pending : Pending (.act a next) fills) (r : a.Answer) :
    ∃ rest, fills = Transcript.told [⟨a, r⟩] ++ rest ∧ Pending (next r) rest := by
  obtain ⟨t, b, path⟩ := exists_path (next r)
  have first := (pending (.act path)).1
  rw [← List.singleton_append, Transcript.told_append] at first
  refine ⟨Transcript.told t, first.symm, fun t' b' path' => ?_⟩
  obtain ⟨whole, uncalled⟩ := pending (.act path')
  rw [← List.singleton_append, Transcript.told_append, ← first] at whole
  refine ⟨List.append_cancel_left whole, fun some => ?_⟩
  have silent := uncalled fun none => some (List.append_eq_nil_iff.mp (first.trans none)).2
  rw [← List.singleton_append, Transcript.calls_append] at silent
  exact (List.append_eq_nil_iff.mp silent).2

/-- Nothing is left to be told before a call. -/
theorem Pending.of_call {c : Call} {next : c.Reply → Dialogue α} {fills : List Fill}
    (pending : Pending (.act (.call c) next) fills) : fills = [] := by
  obtain ⟨t, a, path⟩ := exists_path (.act (.call c) next)
  obtain ⟨r, rest, rfl, tail⟩ := path_act_iff.mp path
  by_contra some
  cases (pending path).2 some

end Dialogue

namespace Loop

variable {k : Keeper} {fillsOpen : Bool}

theorem start_pending (k : Keeper) : Pending (start k) [] := by
  intro t l path
  obtain ⟨rest, rfl, begins⟩ := path_log_iff.mp path
  obtain ⟨rfl, -⟩ := path_pure_iff.mp begins
  exact ⟨rfl, fun some => absurd rfl some⟩

/-- An event that is no fill makes the loop tell of none. -/
theorem serve_pending {e : Event} (other : ∀ f, e ≠ .fill f) :
    Pending (serve (running k fillsOpen) e) [] := by
  have shut : Pending (shutdown k) [] := by
    intro t l path
    obtain ⟨-, canceling, cancels, rfl⟩ := shutdown_path path
    refine ⟨?_, fun some => absurd rfl some⟩
    have untold := cancels.plain.1
    rw [Transcript.told, Transcript.filled, ending, Transcript.notices_log,
      Transcript.notices_stopFeed, Transcript.notices_append, untold]
    rfl
  cases e with
  | tick now =>
    intro t l path
    obtain ⟨first, ⟨s, k'⟩, rest, rfl, cycle, ends⟩ := path_bind_iff.mp path
    obtain ⟨rfl, -⟩ := path_pure_iff.mp ends
    refine ⟨?_, fun some => absurd rfl some⟩
    rw [List.append_nil, Transcript.told, (Keeper.cycle_moves cycle).2.2.2.2.1, List.map_nil]
  | fill f => exact absurd rfl (other f)
  | fillsClosed => exact pending_done _
  | stopSignal on =>
    cases on with
    | true => exact shut
    | false => exact pending_done _
  | signalDropped => exact shut

/-- Of a fill that it has received the loop tells. -/
theorem fill_pending (k : Keeper) (f : Fill) : Pending (serve (running k true) (.fill f)) [f] := by
  intro t l path
  obtain ⟨first, k', rest, rfl, fills, ends⟩ := path_bind_iff.mp path
  obtain ⟨rfl, -⟩ := path_pure_iff.mp ends
  obtain ⟨-, told, -, calls⟩ := Keeper.fill_moves fills
  rw [List.append_nil, Transcript.told, told]
  exact ⟨rfl, fun _ => calls⟩

end Loop

namespace Rehearsal

/-- An act leaves the venue as it is, or the venue has answered a call. -/
theorem world_venue (a : Act) (r : Rehearsal) :
    (world a r).2.venue = r.venue ∨
      ∃ c answered, r.venue.answer c = .ok answered ∧ (world a r).2.venue = answered.venue := by
  cases a with
  | call c =>
    rw [world, Rehearsal.call]
    dsimp only
    split
    · exact .inl (countDown_venue _ _)
    · rw [countDown_venue]
      split
      next e broken => exact .inl (countDown_venue _ _)
      next answered answer => exact .inr ⟨c, answered, answer, rfl⟩
  | notify | feedRunning | startFeed | stopFeed | reference | log => exact .inl rfl

/-- Only a call can break down. -/
theorem world_broken {a : Act} {r s : Rehearsal} {e : Overflow}
    (broken : world a r = (.error e, s)) : ∃ c, a = .call c := by
  cases a with
  | call c => exact ⟨c, rfl⟩
  | notify | feedRunning | startFeed | stopFeed | reference | log => cases broken

end Rehearsal

/-! ### The two tasks -/

/-- The venue with its surroundings, the channel, and what the loop is about to do; and what has
become of all fills so far. -/
structure Pipeline where
  rehearsal : Rehearsal
  channel : Channel
  /-- The venue can still send into the channel. -/
  senderOpen : Bool := true
  task : Dialogue Loop
  /-- All that the venue has filled. -/
  executed : List Fill := []
  /-- What did not fit, or came too late. -/
  dropped : List Fill := []
  /-- What the venue had filled when it broke down over a later order; it is not offered at all. -/
  lost : List Fill := []
  /-- What notices were sent of. -/
  told : List Fill := []
  /-- What was in the channel when it was closed. -/
  unreceived : List Fill := []

namespace Pipeline

/-- A new venue, an empty channel, and a loop that is about to start. -/
def start (k : Keeper) (room : Nat) : Pipeline where
  rehearsal := {}
  channel := { room }
  task := Loop.start k

/-- What can happen next. -/
inductive Step (p : Pipeline) : Pipeline → Prop
  /-- The venue fills what the books have reached, and offers the fills to the channel. -/
  | matched {r : Rehearsal} {c : Channel} {fills : List Fill} (sends : p.senderOpen = true)
      (done : p.rehearsal.matchOrders (some p.channel) = .ok (fills, some c, r)) :
      Step p
        { p with
          rehearsal := r, channel := c, executed := p.executed ++ fills
          dropped := p.dropped ++ p.channel.refused fills }
  /-- The venue breaks down while it fills what the books have reached. It goes on as it is then;
  what it has filled stays filled, and is offered to nobody. -/
  | cutShort {e : Overflow} (sends : p.senderOpen = true)
      (breaks : p.rehearsal.matchOrders (some p.channel) = .error e) :
      Step p
        { p with
          rehearsal := { p.rehearsal with venue := p.rehearsal.venue.fillUntil.2 }
          executed := p.executed ++ p.rehearsal.venue.fillUntil.1
          lost := p.lost ++ p.rehearsal.venue.fillUntil.1 }
  /-- Something else is done at the venue. -/
  | outside {op : Paper.Operation} {done : Paper.Performed}
      (performed : p.rehearsal.venue.perform op = .ok done) (other : done.filled = []) :
      Step p { p with rehearsal := { p.rehearsal with venue := done.venue } }
  /-- Anything around the venue changes: the feed, the script of failures, the sink. -/
  | around {r : Rehearsal} (same : r.venue = p.rehearsal.venue) : Step p { p with rehearsal := r }
  /-- The loop goes on by an act. -/
  | acted {a : Act} {next : a.Answer → Dialogue Loop} {answer : a.Answer} {r : Rehearsal}
      (task : p.task = .act a next) (answered : Rehearsal.world a p.rehearsal = (.ok answer, r)) :
      Step p
        { p with
          rehearsal := r, task := next answer
          told := p.told ++ Transcript.told [⟨a, answer⟩] }
  /-- The venue breaks down over a call of the loop. -/
  | broken {a : Act} {next : a.Answer → Dialogue Loop} {e : Overflow} {r : Rehearsal}
      (task : p.task = .act a next) (breaks : Rehearsal.world a p.rehearsal = (.error e, r)) :
      Step p { p with rehearsal := r, task := .done .broken }
  /-- The loop turns to an event that is not of the channel. -/
  | event {k : Keeper} {fillsOpen : Bool} {e : Event} (idle : p.task = .done (.running k fillsOpen))
      (other : e.isOfFills = false) :
      Step p { p with task := (Loop.running k fillsOpen).serve e }
  | received {k : Keeper} {f : Fill} {rest : List Fill} (idle : p.task = .done (.running k true))
      (next : p.channel.fills = f :: rest) :
      Step p
        { p with
          channel := { p.channel with fills := rest }
          task := (Loop.running k true).serve (.fill f) }
  /-- The loop finds that no fill will come any more. -/
  | exhausted {k : Keeper} (idle : p.task = .done (.running k true)) (gone : p.senderOpen = false)
      (empty : p.channel.fills = []) :
      Step p { p with task := (Loop.running k true).serve .fillsClosed }
  | abandoned : Step p { p with senderOpen := false }
  /-- The loop is over and lets go of the channel. -/
  | closed {l : Loop} (finished : p.task = .done l) (past : l.isOver = true) :
      Step p
        { p with channel := p.channel.close, unreceived := p.unreceived ++ p.channel.fills }

/-- Where every fill is. -/
structure Flows (p : Pipeline) : Prop where
  fills : ∃ taken serving, taken.Sublist p.executed ∧
    p.executed.Perm (taken ++ (p.dropped ++ p.lost)) ∧
    taken = p.told ++ serving ++ p.unreceived ++ p.channel.fills ∧ Pending p.task serving
  /-- Orders that were crossed when the venue broke down count as if they had all been filled. -/
  accounted : ∃ created crossed, Paper.Accounted created crossed p.rehearsal.venue ∧
    p.executed.Sublist crossed
  closed : p.channel.isClosed = true →
    p.channel.fills = [] ∧ ∃ l, p.task = .done l ∧ l.isOver = true
  missed : p.unreceived ≠ [] → p.channel.isClosed = true

theorem start_flows (k : Keeper) (room : Nat) : Flows (start k room) where
  fills := ⟨[], [], .slnil, .nil, rfl, Loop.start_pending k⟩
  accounted := ⟨[], [], Paper.accounted_new, .slnil⟩
  closed isClosed := by cases isClosed
  missed some := absurd rfl some

variable {p q : Pipeline}

theorem Flows.accounted_step (flows : Flows p) (step : Step p q) :
    ∃ created crossed, Paper.Accounted created crossed q.rehearsal.venue ∧
      q.executed.Sublist crossed := by
  obtain ⟨created, crossed, accounted, among⟩ := flows.accounted
  have answering : ∀ a, ∃ created crossed,
      Paper.Accounted created crossed (Rehearsal.world a p.rehearsal).2.venue ∧
        p.executed.Sublist crossed := by
    intro a
    rcases Rehearsal.world_venue a p.rehearsal with same | ⟨c, answered, answer, same⟩
    · exact ⟨created, crossed, same ▸ accounted, among⟩
    · have changed := accounted.change (Paper.answer_change answer)
      rw [List.append_nil] at changed
      exact ⟨_, crossed, same ▸ changed, among⟩
  cases step with
  | matched sends done =>
    obtain ⟨filled, -⟩ := Rehearsal.matchOrders_done done
    exact ⟨_, _, accounted.change (Paper.fillCrossed_change filled),
      among.append (List.Sublist.refl _)⟩
  | cutShort sends breaks =>
    exact ⟨_, _, accounted.change p.rehearsal.venue.fillUntil_change,
      among.append p.rehearsal.venue.fillUntil_begins.sublist⟩
  | outside performed other =>
    have changed := accounted.change (Paper.perform_change performed)
    rw [other, List.append_nil] at changed
    exact ⟨_, crossed, changed, among⟩
  | around same => exact ⟨created, crossed, same ▸ accounted, among⟩
  | @acted a next answer r task answered =>
    have after := answering a
    rwa [answered] at after
  | @broken a next e r task breaks =>
    have after := answering a
    rwa [breaks] at after
  | event | received | exhausted | abandoned | closed => exact ⟨created, crossed, accounted, among⟩

/-- The channel is open for as long as the loop is not over. -/
theorem Flows.isOpen (flows : Flows p) (busy : ∀ l, p.task = .done l → l.isOver = false) :
    p.channel.isClosed = false := by
  cases isClosed : p.channel.isClosed with
  | false => rfl
  | true =>
    obtain ⟨-, l, finished, past⟩ := flows.closed isClosed
    exact past.symm.trans (busy l finished)

theorem busy_of_act {a : Act} {next : a.Answer → Dialogue Loop} (task : p.task = .act a next) :
    ∀ l, p.task = .done l → l.isOver = false := by
  intro l finished
  cases task.symm.trans finished

theorem busy_of_running {k : Keeper} {fillsOpen : Bool}
    (idle : p.task = .done (.running k fillsOpen)) : ∀ l, p.task = .done l → l.isOver = false := by
  intro l finished
  cases idle.symm.trans finished
  rfl

theorem Flows.closed_step (flows : Flows p) (step : Step p q)
    (isClosed : q.channel.isClosed = true) :
    q.channel.fills = [] ∧ ∃ l, q.task = .done l ∧ l.isOver = true := by
  cases step with
  | matched sends done =>
    obtain ⟨-, rfl⟩ := Rehearsal.matchOrders_done done
    obtain ⟨empty, finished⟩ := flows.closed isClosed
    have none : p.channel.free = 0 := if_pos isClosed
    exact ⟨by rw [none, List.take_zero, List.append_nil, empty], finished⟩
  | cutShort | outside | around | abandoned => exact flows.closed isClosed
  | acted task | broken task =>
    cases (flows.isOpen (busy_of_act task)).symm.trans isClosed
  | event idle | received idle | exhausted idle =>
    cases (flows.isOpen (busy_of_running idle)).symm.trans isClosed
  | closed finished past => exact ⟨rfl, _, finished, past⟩

theorem Flows.missed_step (flows : Flows p) (step : Step p q) (some : q.unreceived ≠ []) :
    q.channel.isClosed = true := by
  cases step with
  | matched sends done =>
    obtain ⟨-, rfl⟩ := Rehearsal.matchOrders_done done
    exact flows.missed some
  | closed => rfl
  | cutShort | outside | around | acted | broken | event | received | exhausted | abandoned =>
    exact flows.missed some

theorem perm_append_exchange {α : Type} (a b c d : List α) :
    (a ++ b ++ (c ++ d)).Perm (a ++ c ++ (b ++ d)) := by
  rw [List.append_assoc, List.append_assoc]
  exact (List.perm_append_comm_assoc b c d).append_left a

theorem Flows.fills_step (flows : Flows p) (step : Step p q) :
    ∃ taken serving, taken.Sublist q.executed ∧
      q.executed.Perm (taken ++ (q.dropped ++ q.lost)) ∧
      taken = q.told ++ serving ++ q.unreceived ++ q.channel.fills ∧ Pending q.task serving := by
  obtain ⟨taken, serving, among, all, parts, pending⟩ := flows.fills
  -- Between events there is nothing that the loop still has to tell of.
  have served : ∀ {l}, p.task = .done l → serving = [] := fun finished =>
    (finished ▸ pending).eq_nil
  cases step with
  | @matched r c fills sends done =>
    obtain ⟨-, rfl⟩ := Rehearsal.matchOrders_done done
    refine ⟨taken ++ fills.take p.channel.free, serving, among.append (List.take_sublist _ _), ?_,
      ?_, pending⟩
    · have whole := perm_append_exchange taken (p.dropped ++ p.lost)
        (fills.take p.channel.free) (fills.drop p.channel.free)
      have aside : (p.dropped ++ p.lost ++ fills.drop p.channel.free).Perm
          (p.dropped ++ fills.drop p.channel.free ++ p.lost) := by
        rw [List.append_assoc, List.append_assoc]
        exact List.perm_append_comm.append_left _
      rw [List.take_append_drop] at whole
      rw [Channel.refused_eq]
      exact (all.append_right fills).trans (whole.trans (aside.append_left _))
    · rw [parts, List.append_assoc]
  | cutShort sends breaks =>
    refine ⟨taken, serving, among.trans (List.sublist_append_left _ _), ?_, parts, pending⟩
    rw [← List.append_assoc p.dropped, ← List.append_assoc taken]
    exact all.append_right _
  | outside | around | abandoned => exact ⟨taken, serving, among, all, parts, pending⟩
  | @acted a next answer r task answered =>
    obtain ⟨rest, rfl, later⟩ := (task ▸ pending).act answer
    exact ⟨taken, rest, among, all, by rw [parts]; simp only [List.append_assoc], later⟩
  | broken task breaks =>
    obtain ⟨c, rfl⟩ := Rehearsal.world_broken breaks
    obtain rfl := (task ▸ pending).of_call
    exact ⟨taken, [], among, all, parts, pending_done _⟩
  | event idle other =>
    obtain rfl := served idle
    refine ⟨taken, [], among, all, parts, Loop.serve_pending ?_⟩
    rintro f rfl
    cases other
  | @received k f rest idle next =>
    obtain rfl := served idle
    have unclosed := flows.isOpen (busy_of_running idle)
    have nothing : p.unreceived = [] := by
      by_contra some
      cases unclosed.symm.trans (flows.missed some)
    refine ⟨taken, [f], among, all, ?_, Loop.fill_pending k f⟩
    rw [parts, nothing, next]
    simp only [List.append_nil, List.append_assoc, List.singleton_append]
  | @exhausted k idle gone empty =>
    obtain rfl := served idle
    have turned : Pending ((Loop.running k true).serve .fillsClosed) [] :=
      Loop.serve_pending fun f same => nomatch same
    exact ⟨taken, [], among, all, parts, turned⟩
  | closed finished past =>
    refine ⟨taken, serving, among, all, ?_, pending⟩
    rw [parts, Channel.close, List.append_nil, List.append_assoc]

theorem Flows.step (flows : Flows p) (step : Step p q) : Flows q where
  fills := flows.fills_step step
  accounted := flows.accounted_step step
  closed := flows.closed_step step
  missed := flows.missed_step step

theorem flows_of_steps {k : Keeper} {room : Nat}
    (steps : Relation.ReflTransGen Step (start k room) p) : Flows p := by
  induction steps with
  | refl => exact start_flows k room
  | tail steps step ih => exact ih.step step

/-- Whatever the room in the channel, and whatever happens between the acts of the loop: the loop
has told of some of the fills in the order in which the venue has filled them, and of none twice.
When the venue fills orders the channel takes the longest beginning for which it has room while it
is open, the rest is dropped, and what the venue fills and pays does not depend on the channel, nor
whether it breaks down; if it does, it has filled the crossed orders before the one that it cannot
settle. Every fill has been told of, is the one that the loop is about to tell of, was dropped, was
lost when the venue broke down, is in the channel or was in it when the loop was over. -/
theorem steps_delivered {k : Keeper} {room : Nat}
    (steps : Relation.ReflTransGen Step (start k room) p) :
    p.told.Sublist p.executed ∧ (p.told.map (·.id)).Nodup ∧
      (∀ fills c r, p.rehearsal.matchOrders (some p.channel) = .ok (fills, some c, r) →
        c.fills = p.channel.fills ++ fills.take p.channel.free ∧
          p.channel.refused fills = fills.drop p.channel.free) ∧
      (∀ channel, (p.rehearsal.matchOrders channel).map (fun out => (out.1, out.2.2.venue)) =
        p.rehearsal.venue.fillCrossed) ∧
      (∀ e, p.rehearsal.matchOrders (some p.channel) = .error e →
        let v := p.rehearsal.venue
        ∃ settled o rest w, v.orders.filter v.crosses = settled ++ o :: rest ∧
          { v with orders := v.orders.filter (!v.crosses ·) }.settleAll settled = .ok w ∧
          w.settle o = .error e ∧ v.fillUntil.1 = settled.map (·.fill)) ∧
      (p.unreceived ≠ [] → ∃ l, p.task = .done l ∧ l.isOver = true) ∧
      ∃ serving, (∀ l, p.task = .done l → serving = []) ∧
        p.executed.Perm
          (p.told ++ serving ++ (p.unreceived ++ p.channel.fills) ++ (p.dropped ++ p.lost)) := by
  have flows := flows_of_steps steps
  obtain ⟨taken, serving, among, all, parts, pending⟩ := flows.fills
  obtain ⟨created, crossed, accounted, filled⟩ := flows.accounted
  have told : p.told.Sublist p.executed := by
    rw [parts, List.append_assoc, List.append_assoc] at among
    exact (List.sublist_append_left _ _).trans among
  have once : (crossed.map (·.id)).Nodup := by
    refine List.nodup_iff_count_le_one.mpr fun id => ?_
    have shown := accounted.shown_eq id
    rw [Paper.shown] at shown
    split at shown
    · omega
    · omega
  refine ⟨told, once.sublist ((told.trans filled).map _), ?_, Rehearsal.matchOrders_venue _, ?_,
    fun some => (flows.closed (flows.missed some)).2, serving, ?_, ?_⟩
  · intro fills c r done
    obtain ⟨-, rfl⟩ := Rehearsal.matchOrders_done done
    exact ⟨rfl, Channel.refused_eq _ _⟩
  · intro e breaks
    obtain ⟨settled, o, rest, w, parts, done, here, left⟩ :=
      Paper.fillUntil_of_breaks (Rehearsal.matchOrders_breaks breaks)
    exact ⟨settled, o, rest, w, parts, done, here, by rw [left]⟩
  · intro l finished
    exact (finished ▸ pending).eq_nil
  · rwa [parts, List.append_assoc _ p.unreceived] at all

/-! ### Trying it out -/

/-- The loop goes on until it has nothing more to do about what it has begun. -/
def settle (p : Pipeline) : Pipeline :=
  { p with
    rehearsal := (p.task.run Rehearsal.world p.rehearsal).2
    task := .done ((p.task.run Rehearsal.world p.rehearsal).1.toOption.getD .broken)
    told := p.told ++ Transcript.told (p.task.transcript Rehearsal.world p.rehearsal) }

theorem settle_steps (p : Pipeline) : Relation.ReflTransGen Step p p.settle := by
  rcases p with ⟨r, c, sends, task, executed, dropped, lost, told, unreceived⟩
  induction task generalizing r told with
  | done l =>
    have same : settle ⟨r, c, sends, .done l, executed, dropped, lost, told, unreceived⟩ =
        ⟨r, c, sends, .done l, executed, dropped, lost, told, unreceived⟩ := by
      rw [settle, Pipeline.mk.injEq]
      exact ⟨rfl, rfl, rfl, rfl, rfl, rfl, rfl, List.append_nil _, rfl⟩
    rw [same]
  | act a next ih =>
    rcases answered : Rehearsal.world a r with ⟨answer, s⟩
    cases answer with
    | error e =>
      have broken : settle ⟨r, c, sends, .act a next, executed, dropped, lost, told, unreceived⟩ =
          ⟨s, c, sends, .done .broken, executed, dropped, lost, told, unreceived⟩ := by
        rw [settle, Dialogue.run, Dialogue.transcript]
        simp only [answered]
        rw [Pipeline.mk.injEq]
        exact ⟨rfl, rfl, rfl, rfl, rfl, rfl, rfl, List.append_nil _, rfl⟩
      rw [broken]
      exact .single (.broken rfl answered)
    | ok answer =>
      have further : settle ⟨r, c, sends, .act a next, executed, dropped, lost, told, unreceived⟩ =
          settle ⟨s, c, sends, next answer, executed, dropped, lost,
            told ++ Transcript.told [⟨a, answer⟩], unreceived⟩ := by
        rw [settle, settle, Dialogue.run, Dialogue.transcript]
        simp only [answered]
        rw [Pipeline.mk.injEq]
        refine ⟨rfl, rfl, rfl, rfl, rfl, rfl, rfl, ?_, rfl⟩
        rw [List.append_assoc, ← Transcript.told_append, List.singleton_append]
      rw [further]
      exact .head (.acted rfl answered) (ih answer s _)

/-- What can be tried out. -/
inductive Move where
  | settle
  | operate (op : Paper.Operation)
  | matchOrders
  | turn (e : Event)
  | receive
  | close

/-- The pipeline after a move, if there is one to make. -/
def move (p : Pipeline) : Move → Option Pipeline
  | .settle => some p.settle
  | .operate op =>
    match p.rehearsal.venue.perform op with
    | .ok performed =>
      if performed.filled = [] then
        some { p with rehearsal := { p.rehearsal with venue := performed.venue } }
      else
        none
    | .error _ => none
  | .matchOrders =>
    match p.senderOpen, p.rehearsal.matchOrders (some p.channel) with
    | true, .ok (fills, some c, r) =>
      some
        { p with
          rehearsal := r, channel := c, executed := p.executed ++ fills
          dropped := p.dropped ++ p.channel.refused fills }
    | true, .error _ =>
      some
        { p with
          rehearsal := { p.rehearsal with venue := p.rehearsal.venue.fillUntil.2 }
          executed := p.executed ++ p.rehearsal.venue.fillUntil.1
          lost := p.lost ++ p.rehearsal.venue.fillUntil.1 }
    | _, _ => none
  | .turn e =>
    match p.task, e.isOfFills with
    | .done (.running k fillsOpen), false =>
      some { p with task := (Loop.running k fillsOpen).serve e }
    | _, _ => none
  | .receive =>
    match p.task, p.channel.fills with
    | .done (.running k true), f :: rest =>
      some
        { p with
          channel := { p.channel with fills := rest }
          task := (Loop.running k true).serve (.fill f) }
    | _, _ => none
  | .close =>
    match p.task with
    | .done l =>
      if l.isOver then
        some { p with channel := p.channel.close, unreceived := p.unreceived ++ p.channel.fills }
      else
        none
    | .act _ _ => none

theorem move_steps {m : Move} (moved : p.move m = some q) : Relation.ReflTransGen Step p q := by
  cases m with
  | settle =>
    obtain rfl := Option.some.inj moved
    exact settle_steps p
  | operate op =>
    simp only [move] at moved
    split at moved
    next performed perform =>
      split at moved
      next unfilled =>
        obtain rfl := Option.some.inj moved
        exact .single (.outside perform unfilled)
      next => cases moved
    next => cases moved
  | matchOrders =>
    simp only [move] at moved
    split at moved
    next fills c r sends done =>
      obtain rfl := Option.some.inj moved
      exact .single (.matched sends done)
    next e sends breaks =>
      obtain rfl := Option.some.inj moved
      exact .single (.cutShort sends breaks)
    next => cases moved
  | turn e =>
    simp only [move] at moved
    split at moved
    next k fillsOpen idle other =>
      obtain rfl := Option.some.inj moved
      exact .single (.event idle other)
    next => cases moved
  | receive =>
    simp only [move] at moved
    split at moved
    next k f rest idle next =>
      obtain rfl := Option.some.inj moved
      exact .single (.received idle next)
    next => cases moved
  | close =>
    simp only [move] at moved
    split at moved
    next l finished =>
      split at moved
      next past =>
        obtain rfl := Option.some.inj moved
        exact .single (.closed finished past)
      next => cases moved
    next => cases moved

theorem moves_steps {moves : List Move} (moved : moves.foldlM move p = some q) :
    Relation.ReflTransGen Step p q := by
  induction moves generalizing p with
  | nil =>
    obtain rfl := Option.some.inj moved
    exact .refl
  | cons m moves ih =>
    obtain ⟨r, first, rest⟩ := Option.bind_eq_some_iff.mp moved
    exact (move_steps first).trans (ih rest)

/-- What is shown by moves that can be made is shown by steps. -/
theorem exists_of_moves {α : Type} {moves : List Move} {f : Pipeline → α} {a : α}
    (ended : (moves.foldlM move p).map f = some a) :
    ∃ q, Relation.ReflTransGen Step p q ∧ f q = a := by
  obtain ⟨q, moved, shows⟩ := Option.map_eq_some_iff.mp ended
  exact ⟨q, moves_steps moved, shows⟩

/-- A sell that the venue fills, and one over which it breaks down. -/
def breakdown : List Move :=
  let sell : Candidate := { pair := ⟨"X", "BTC"⟩, side := .sell, price := 0.0009, amount := 1.0 }
  let dear : Pair := ⟨"Y", "BTC"⟩
  [.operate (.book dear ⟨1e28, 2e28⟩), .operate (.seed sell),
    .operate (.seed { sell with pair := dear, price := 1e28, amount := 10.0 }), .matchOrders]

/-- Room for one fill: of two fills one is dropped and one is told of; a third one is still in the
channel, and the venue has broken down after a fourth one, when the loop is stopped. -/
def smallMoves : List Move :=
  let pair : Pair := ⟨"X", "BTC"⟩
  let buy : Candidate := { pair, side := .buy, price := 0.0012, amount := 5.0 }
  [.settle, .operate (.book pair ⟨0.00098, 0.00112⟩), .operate (.seed buy), .operate (.seed buy),
    .matchOrders, .receive, .settle, .operate (.seed buy), .matchOrders] ++ breakdown ++
  [.turn (.stopSignal true), .settle, .close]

theorem steps_delivered_small : ∃ p, Relation.ReflTransGen Step (start Keeper.small 1) p ∧
    p.executed.map (·.id) = ["#1", "#2", "#3", "#4"] ∧ p.told.map (·.id) = ["#1"] ∧
    p.dropped.map (·.id) = ["#2"] ∧ p.lost.map (·.id) = ["#4"] ∧
    p.unreceived.map (·.id) = ["#3"] ∧ p.told.Sublist p.executed ∧ (p.told.map (·.id)).Nodup ∧
    ∃ l, p.task = .done l ∧ l.isOver = true ∧ p.executed.Perm
      (p.told ++ (p.unreceived ++ p.channel.fills) ++ (p.dropped ++ p.lost)) := by
  have ended : (smallMoves.foldlM move (start Keeper.small 1)).map (fun p =>
      [p.executed, p.told, p.dropped, p.lost, p.unreceived].map (·.map (·.id))) =
        some [["#1", "#2", "#3", "#4"], ["#1"], ["#2"], ["#4"], ["#3"]] := by
    decide +kernel
  obtain ⟨p, steps, shown⟩ := exists_of_moves ended
  obtain ⟨executed, others⟩ := List.cons_eq_cons.mp shown
  obtain ⟨told, others⟩ := List.cons_eq_cons.mp others
  obtain ⟨dropped, others⟩ := List.cons_eq_cons.mp others
  obtain ⟨lost, others⟩ := List.cons_eq_cons.mp others
  obtain ⟨unreceived, -⟩ := List.cons_eq_cons.mp others
  obtain ⟨among, once, -, -, -, past, serving, idle, whole⟩ := steps_delivered steps
  have some : p.unreceived ≠ [] := by
    intro none
    rw [none] at unreceived
    cases unreceived
  obtain ⟨l, finished, isOver⟩ := past some
  obtain rfl := idle l finished
  rw [List.append_nil] at whole
  exact ⟨p, steps, executed, told, dropped, lost, unreceived, among, once, l, finished, isOver,
    whole⟩

/-- The venue breaks down after one fill, and the loop is stopped. -/
def brokenMoves : List Move :=
  [.settle, .operate (.book ⟨"X", "BTC"⟩ ⟨0.00098, 0.00112⟩)] ++ breakdown ++
  [.turn (.stopSignal true), .settle, .close]

/-- Where the venue breaks down, a fill that there was room for is neither told of nor dropped nor
left in the channel when the loop is over. -/
theorem steps_undelivered : ∃ p, Relation.ReflTransGen Step (start Keeper.small 64) p ∧
    p.executed.map (·.id) = ["#1"] ∧ p.told = [] ∧ p.dropped = [] ∧ p.unreceived = [] ∧
    p.channel.fills = [] ∧ (∃ l, p.task = .done l ∧ l.isOver = true) ∧
    ¬ p.executed.Perm (p.told ++ (p.unreceived ++ p.channel.fills) ++ p.dropped) := by
  have ended : (brokenMoves.foldlM move (start Keeper.small 64)).map (fun p =>
      (p.executed.map (·.id), [p.told, p.dropped, p.unreceived, p.channel.fills],
        p.channel.isClosed)) = some (["#1"], [[], [], [], []], true) := by
    decide +kernel
  obtain ⟨p, steps, shown⟩ := exists_of_moves ended
  obtain ⟨executed, others⟩ := Prod.mk.inj shown
  obtain ⟨nowhere, isClosed⟩ := Prod.mk.inj others
  obtain ⟨told, others⟩ := List.cons_eq_cons.mp nowhere
  obtain ⟨dropped, others⟩ := List.cons_eq_cons.mp others
  obtain ⟨unreceived, others⟩ := List.cons_eq_cons.mp others
  obtain ⟨left, -⟩ := List.cons_eq_cons.mp others
  refine ⟨p, steps, executed, told, dropped, unreceived, left,
    ((flows_of_steps steps).closed isClosed).2, fun whole => ?_⟩
  rw [told, dropped, unreceived, left] at whole
  rw [whole.eq_nil] at executed
  cases executed

end Pipeline

end QuoteKeeper
