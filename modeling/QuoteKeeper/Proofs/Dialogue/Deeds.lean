import QuoteKeeper.Proofs.Cycle.Plainness

/-!
# Deeds

Sending a notice and writing to the log are words; every other act is a deed. A dialogue is
determined if nothing of what it does or comes to depends on what becomes of its words: two paths of
it do the same for as long as what they do is answered alike. A dialogue that sends no notice is
determined, and so is sending one, whose answer decides about a line of the log only.
-/

namespace QuoteKeeper

/-- Whether an act is more than words. -/
def Act.isDeed : Act → Bool
  | notify _ | log _ => false
  | call _ | feedRunning | startFeed | stopFeed | reference _ => true

namespace Transcript

/-- What is done, with the answers; what is said is left out. -/
def deeds (t : Transcript) : Transcript := t.filter (·.1.isDeed)

@[simp] theorem deeds_append (s t : Transcript) : deeds (s ++ t) = deeds s ++ deeds t :=
  List.filter_append ..

@[simp] theorem deeds_log (line : LogLine) (u : Unit) (t : Transcript) :
    deeds (⟨.log line, u⟩ :: t) = deeds t := rfl

theorem deeds_cons {a : Act} (deed : a.isDeed = true) (r : a.Answer) (t : Transcript) :
    deeds (⟨a, r⟩ :: t) = ⟨a, r⟩ :: deeds t :=
  List.filter_cons_of_pos deed

end Transcript

/-- What is done alike is answered alike. -/
def AnsweredAlike : Transcript → Transcript → Prop
  | x :: xs, y :: ys => x.1 = y.1 → x = y ∧ AnsweredAlike xs ys
  | _, _ => True

namespace Dialogue

variable {α β : Type}

/-- What is done, and what it comes to, is told by the answers to what is done, whatever follows. -/
def Determined (d : Dialogue α) : Prop :=
  ∀ ⦃t t' u u' : Transcript⦄ ⦃a a' : α⦄, Path d t a → Path d t' a' →
    AnsweredAlike (t.deeds ++ u) (t'.deeds ++ u') →
      t'.deeds = t.deeds ∧ a' = a ∧ AnsweredAlike u u'

theorem determined_pure (a : α) : Determined (pure a : Dialogue α) := by
  intro t t' u u' b b' path path' alike
  obtain ⟨rfl, rfl⟩ := path_pure_iff.mp path
  obtain ⟨rfl, rfl⟩ := path_pure_iff.mp path'
  exact ⟨rfl, rfl, alike⟩

theorem Determined.bind {d : Dialogue α} {f : α → Dialogue β} (first : Determined d)
    (each : ∀ a, Determined (f a)) : Determined (d >>= f) := by
  intro t t' u u' b b' path path' alike
  obtain ⟨s, a, r, rfl, before, after⟩ := path_bind_iff.mp path
  obtain ⟨s', a', r', rfl, before', after'⟩ := path_bind_iff.mp path'
  rw [Transcript.deeds_append, Transcript.deeds_append, List.append_assoc, List.append_assoc]
    at alike
  obtain ⟨same, rfl, alike⟩ := first before before' alike
  obtain ⟨same', result, later⟩ := each a' after after' alike
  exact ⟨by rw [Transcript.deeds_append, Transcript.deeds_append, same, same'], result, later⟩

theorem determined_deed {a : Act} {next : a.Answer → Dialogue α} (deed : a.isDeed = true)
    (each : ∀ r, Determined (next r)) : Determined (act a next) := by
  intro t t' u u' b b' path path' alike
  obtain ⟨r, rest, rfl, tail⟩ := path_act_iff.mp path
  obtain ⟨r', rest', rfl, tail'⟩ := path_act_iff.mp path'
  rw [Transcript.deeds_cons deed, Transcript.deeds_cons deed] at alike ⊢
  obtain ⟨answer, further⟩ := alike rfl
  cases answer
  obtain ⟨same, result, later⟩ := each r tail tail' further
  exact ⟨by rw [same], result, later⟩

theorem determined_log {line : LogLine} {next : Unit → Dialogue α}
    (each : ∀ u, Determined (next u)) : Determined (act (.log line) next) := by
  intro t t' u u' b b' path path' alike
  obtain ⟨v, rest, rfl, tail⟩ := path_act_iff.mp path
  obtain ⟨v', rest', rfl, tail'⟩ := path_act_iff.mp path'
  obtain rfl : v' = v := rfl
  exact @each v' rest rest' u u' b b' tail tail' alike

theorem Plain.determined {d : Dialogue α} (plain : Plain d) : Determined d := by
  induction plain with
  | done a => exact determined_pure a
  | call _ ih | reference _ ih | startFeed _ ih => exact determined_deed rfl ih
  | log _ ih => exact determined_log ih

theorem Plain.unstopped {d : Dialogue α} (plain : Plain d) {t : Transcript} {a : α}
    (path : Path d t a) : (t.map (·.1)).count .stopFeed = 0 := by
  induction plain generalizing t with
  | done b =>
    cases path
    rfl
  | call _ ih | reference _ ih | startFeed _ ih | log _ ih =>
    obtain ⟨r, rest, rfl, tail⟩ := path_act_iff.mp path
    rw [List.map_cons, List.count_cons_of_ne Act.noConfusion]
    exact ih r tail

end Dialogue

open Dialogue

theorem Progress.ofCycle_determined (settings : Settings) (cycle : Nat) (cooldown : Cooldown)
    (now : Instant) : Determined (ofCycle settings cycle cooldown now) :=
  determined_deed rfl fun on => (afterFeed_plain settings now cycle cooldown on).determined

namespace Keeper

/-- Whether a notice is delivered is only written down. -/
theorem send_path {notice : Notice} {what : String} {t : Transcript} {u : Unit}
    (path : Path (send notice what) t u) :
    t.deeds = [] ∧ t.notices = [notice] ∧ (t.map (·.1)).count .stopFeed = 0 := by
  obtain ⟨r, rest, rfl, goesOn⟩ := path_notify_iff.mp path
  cases r with
  | ok v =>
    obtain ⟨rfl, -⟩ := path_pure_iff.mp goesOn
    exact ⟨rfl, rfl, rfl⟩
  | error e =>
    rw [path_log_last_iff.mp goesOn]
    exact ⟨rfl, rfl, rfl⟩

theorem send_determined (notice : Notice) (what : String) : Determined (send notice what) := by
  intro t t' u u' a a' path path' alike
  rw [(send_path path).1, (send_path path').1] at *
  exact ⟨rfl, rfl, alike⟩

theorem cycle_determined (k : Keeper) (now : Instant) : Determined (k.cycle now) := by
  refine (Progress.ofCycle_determined k.settings _ k.cooldown now).bind fun s => ?_
  refine Determined.bind (determined_log fun _ => ?_) fun _ => determined_pure _
  split
  · exact send_determined _ _
  · exact determined_pure _

theorem fill_determined (k : Keeper) (f : Fill) : Determined (k.fill f) :=
  determined_log fun _ => (send_determined _ _).bind fun _ => determined_pure _

end Keeper

end QuoteKeeper
