import QuoteKeeper.Keeper.Cycle
import QuoteKeeper.Proofs.Dialogue.Transcript

/-!
# What a cancel phase does

Every withdrawal of the plan is announced with its reason and then called, once and in order,
whatever becomes of the calls before it.
-/

namespace QuoteKeeper

open Dialogue

namespace Batch

/-- The calls that cancel some orders, and how many of them fail. -/
inductive Canceled : List Withdrawal → List Exchange → Nat → Prop
  | nil : Canceled [] [] 0
  | done {w : Withdrawal} {ws : List Withdrawal} {calls : List Exchange} {failed : Nat}
      (rest : Canceled ws calls failed) :
      Canceled (w :: ws) (⟨.cancel w.order.pair w.order.id, .ok ()⟩ :: calls) failed
  | failed {w : Withdrawal} {ws : List Withdrawal} {calls : List Exchange} {failed : Nat}
      (e : CallError) (rest : Canceled ws calls failed) :
      Canceled (w :: ws) (⟨.cancel w.order.pair w.order.id, .error e⟩ :: calls) (failed + 1)

theorem Canceled.kind {ws : List Withdrawal} {calls : List Exchange} {failed : Nat}
    (canceled : Canceled ws calls failed) : ∀ x ∈ calls, x.1.kind = .cancel := by
  induction canceled with
  | nil => exact fun x member => nomatch member
  | done rest ih => exact List.forall_mem_cons.mpr ⟨rfl, ih⟩
  | failed e rest ih => exact List.forall_mem_cons.mpr ⟨rfl, ih⟩

theorem Canceled.length_eq {ws : List Withdrawal} {calls : List Exchange} {failed : Nat}
    (canceled : Canceled ws calls failed) : calls.length = ws.length := by
  induction canceled with
  | nil => rfl
  | done rest ih => rw [List.length_cons, List.length_cons, ih]
  | failed e rest ih => rw [List.length_cons, List.length_cons, ih]

theorem cancelCall_path {p : Pair} {id : OrderId} {t : Transcript} {r : Except Failure Unit}
    (path : Path (cancelCall p id) t r) :
    t.references = [] ∧ ((t.calls = [⟨.cancel p id, .ok ()⟩] ∧ r = .ok ()) ∨
      ∃ e failure, t.calls = [⟨.cancel p id, .error e⟩] ∧ r = .error failure) := by
  obtain ⟨reply, rest, rfl, goesOn⟩ := path_call_iff.mp path
  cases reply with
  | ok u =>
    obtain ⟨rfl, rfl⟩ := path_pure_iff.mp goesOn
    exact ⟨rfl, Or.inl ⟨rfl, rfl⟩⟩
  | error e =>
    obtain ⟨last, rfl, ends⟩ := path_log_iff.mp goesOn
    obtain ⟨rfl, rfl⟩ := path_pure_iff.mp ends
    exact ⟨rfl, Or.inr ⟨e, _, rfl, rfl⟩⟩

theorem withdrawAll_canceled {ws : List Withdrawal} {t : Transcript} {failed : Nat}
    (path : Path (withdrawAll ws) t failed) :
    t.references = [] ∧ Canceled ws t.calls failed ∧
      ∀ w ∈ ws, ⟨.log (withdrawLine w), ()⟩ ∈ t := by
  induction ws generalizing t failed with
  | nil =>
    obtain ⟨rfl, rfl⟩ := path_pure_iff.mp path
    exact ⟨rfl, .nil, fun w member => nomatch member⟩
  | cons w ws ih =>
    obtain ⟨first, r, rest, rfl, head, goesOn⟩ := path_bind_iff.mp path
    obtain ⟨second, others, last, rfl, tail, ends⟩ := path_bind_iff.mp goesOn
    obtain ⟨rfl, rfl⟩ := path_pure_iff.mp ends
    obtain ⟨call, rfl, made⟩ := path_log_iff.mp head
    obtain ⟨unasked, canceled, announced⟩ := ih tail
    have lines : ∀ v ∈ w :: ws, (⟨.log (withdrawLine v), ()⟩ : Σ a : Act, a.Answer) ∈
        ⟨.log (withdrawLine w), ()⟩ :: call ++ (second ++ []) := by
      intro v member
      rcases List.mem_cons.mp member with rfl | later
      · exact List.mem_append_left _ List.mem_cons_self
      · exact List.mem_append_right _ (List.mem_append_left _ (announced v later))
    obtain ⟨silent, ⟨only, rfl⟩ | ⟨e, failure, only, rfl⟩⟩ := cancelCall_path made
    · refine ⟨by simp [silent, unasked], ?_, lines⟩
      simpa [only] using Canceled.done canceled
    · refine ⟨by simp [silent, unasked], ?_, lines⟩
      simpa [only] using Canceled.failed e canceled

end Batch

namespace CancelPlan

theorem logUnjudged_quiet {pairs : List Pair} {t : Transcript} {u : Unit}
    (path : Path (logUnjudged pairs) t u) : t.Quiet := by
  induction pairs generalizing t with
  | nil =>
    obtain ⟨rfl, -⟩ := path_pure_iff.mp path
    exact Transcript.quiet_nil
  | cons p pairs ih =>
    obtain ⟨rest, rfl, goesOn⟩ := path_log_iff.mp path
    exact (ih goesOn).log _ _

end CancelPlan

namespace Progress

/-- What a cancel phase makes of its plan, if some number of its calls fails. -/
def withCancels (reason : CancelReason) (plan : CancelPlan) (now : Instant) (failed : Nat)
    (s : Progress) : Progress :=
  let counted := countCancels s.summary reason plan.withdrawals.length
  { summary :=
      { counted with
        skips := s.summary.skips + { invalidPrice := plan.unjudged.length }
        cancelFailures := counted.cancelFailures + failed }
    cooldown := plan.withdrawals.foldl (fun c w => c.recordCancel w.order.pair now) s.cooldown }

theorem cancelPhase_canceled {reason : CancelReason} {plan : CancelPlan} {now : Instant}
    {s s' : Progress} {t : Transcript} {actions : Nat}
    (path : Path (cancelPhase reason plan now s) t (actions, s')) :
    actions = plan.withdrawals.length ∧ t.references = [] ∧
      (∀ w ∈ plan.withdrawals, ⟨.log (Batch.withdrawLine w), ()⟩ ∈ t) ∧
      ∃ failed, Batch.Canceled plan.withdrawals t.calls failed ∧
        s' = s.withCancels reason plan now failed := by
  obtain ⟨first, u, rest, rfl, logs, goesOn⟩ := path_bind_iff.mp path
  obtain ⟨second, failed, last, rfl, cancels, ends⟩ := path_bind_iff.mp goesOn
  obtain ⟨rfl, result⟩ := path_pure_iff.mp ends
  obtain ⟨rfl, rfl⟩ := Prod.mk.inj result
  have quiet := CancelPlan.logUnjudged_quiet logs
  obtain ⟨unasked, canceled, announced⟩ := Batch.withdrawAll_canceled cancels
  refine ⟨rfl, by simp [quiet.2, unasked], ?_, failed, by simpa [quiet.1] using canceled, rfl⟩
  intro w member
  exact List.mem_append_right _ (List.mem_append_left _ (announced w member))

end Progress

end QuoteKeeper
