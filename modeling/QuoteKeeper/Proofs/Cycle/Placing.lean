import QuoteKeeper.Keeper.Cycle
import QuoteKeeper.Proofs.Dialogue.Transcript

/-!
# What placing a batch does

An empty batch asks for nothing. Any other is checked against the budget once, and then either
nothing is placed or every candidate of the answer, one call each, whatever becomes of the calls.
-/

namespace QuoteKeeper

open Dialogue

namespace Batch

/-- The calls that place some candidates, and what becomes of them. -/
inductive Placed : List Candidate → BatchResult → List Exchange → Prop
  | nil : Placed [] {} []
  | done {c : Candidate} {cs : List Candidate} {result : BatchResult} {calls : List Exchange}
      (id : OrderId) (rest : Placed cs result calls) :
      Placed (c :: cs) { result with placed := id :: result.placed } (⟨.place c, .ok id⟩ :: calls)
  | failed {c : Candidate} {cs : List Candidate} {result : BatchResult} {calls : List Exchange}
      (e : CallError) (rest : Placed cs result calls) :
      Placed (c :: cs) { result with failed := result.failed + 1 } (⟨.place c, .error e⟩ :: calls)

/-- How placing a batch can go. -/
inductive Course (batch : List Candidate) : BatchResult → List Exchange → Prop
  | empty (nothing : batch = []) : Course batch {} []
  | unchecked (nonempty : batch ≠ []) (e : CallError) :
      Course batch { externalFailures := 1 } [⟨.budgetAdjust batch true, .error e⟩]
  | rejected {adjusted : List Candidate} (nonempty : batch ≠ [])
      (cut : adjusted.length ≠ batch.length) :
      Course batch { budgetRejected := batch.length } [⟨.budgetAdjust batch true, .ok adjusted⟩]
  | placed {adjusted : List Candidate} {result : BatchResult} {calls : List Exchange}
      (nonempty : batch ≠ []) (whole : adjusted.length = batch.length)
      (all : Placed adjusted result calls) :
      Course batch result (⟨.budgetAdjust batch true, .ok adjusted⟩ :: calls)

theorem Placed.kind {cs : List Candidate} {result : BatchResult} {calls : List Exchange}
    (placed : Placed cs result calls) : ∀ x ∈ calls, x.1.kind = .place := by
  induction placed with
  | nil => exact fun x member => nomatch member
  | done id rest ih => exact List.forall_mem_cons.mpr ⟨rfl, ih⟩
  | failed e rest ih => exact List.forall_mem_cons.mpr ⟨rfl, ih⟩

theorem Course.kind {batch : List Candidate} {result : BatchResult} {calls : List Exchange}
    (course : Course batch result calls) :
    ∀ x ∈ calls, x.1.kind = .budgetAdjust ∨ x.1.kind = .place := by
  cases course with
  | empty nothing => exact fun x member => nomatch member
  | unchecked | rejected => exact List.forall_mem_singleton.mpr (Or.inl rfl)
  | placed nonempty whole all =>
    exact List.forall_mem_cons.mpr ⟨Or.inl rfl, fun x member => Or.inr (all.kind x member)⟩

theorem Course.others {batch : List Candidate} {result : BatchResult} {calls : List Exchange}
    (course : Course batch result calls) {kind : CallKind} (unchecked : .budgetAdjust ≠ kind)
    (unplaced : .place ≠ kind) : ∀ x ∈ calls, x.1.kind ≠ kind := by
  intro x member
  rcases course.kind x member with same | same
  · rw [same]
    exact unchecked
  · rw [same]
    exact unplaced

theorem Course.checked {batch : List Candidate} {result : BatchResult} {calls : List Exchange}
    (course : Course batch result calls) (nonempty : batch ≠ []) :
    ∃ r, ⟨.budgetAdjust batch true, r⟩ ∈ calls := by
  cases course with
  | empty nothing => exact absurd nothing nonempty
  | unchecked | rejected | placed => exact ⟨_, List.mem_cons_self⟩

theorem placeOne_path {c : Candidate} {t : Transcript} {r : Option OrderId}
    (path : Path (placeOne c) t r) :
    t.references = [] ∧ ((∃ id, t.calls = [⟨.place c, .ok id⟩] ∧ r = some id) ∨
      ∃ e, t.calls = [⟨.place c, .error e⟩] ∧ r = none) := by
  obtain ⟨reply, rest, rfl, goesOn⟩ := path_call_iff.mp path
  cases reply with
  | ok id =>
    obtain ⟨last, rfl, ends⟩ := path_log_iff.mp goesOn
    obtain ⟨rfl, rfl⟩ := path_pure_iff.mp ends
    exact ⟨rfl, Or.inl ⟨id, rfl, rfl⟩⟩
  | error e =>
    obtain ⟨last, rfl, ends⟩ := path_log_iff.mp goesOn
    obtain ⟨rfl, rfl⟩ := path_pure_iff.mp ends
    exact ⟨rfl, Or.inr ⟨e, rfl, rfl⟩⟩

theorem placeAll_placed {cs : List Candidate} {t : Transcript} {result : BatchResult}
    (path : Path (placeAll cs) t result) : t.references = [] ∧ Placed cs result t.calls := by
  induction cs generalizing t result with
  | nil =>
    obtain ⟨rfl, rfl⟩ := path_pure_iff.mp path
    exact ⟨rfl, .nil⟩
  | cons c cs ih =>
    obtain ⟨first, r, rest, rfl, head, goesOn⟩ := path_bind_iff.mp path
    obtain ⟨second, others, last, rfl, tail, ends⟩ := path_bind_iff.mp goesOn
    obtain ⟨rfl, rfl⟩ := path_pure_iff.mp ends
    obtain ⟨unasked, placed⟩ := ih tail
    obtain ⟨silent, ⟨id, only, rfl⟩ | ⟨e, only, rfl⟩⟩ := placeOne_path head
    · refine ⟨by simp [silent, unasked], ?_⟩
      simpa [only] using Placed.done id placed
    · refine ⟨by simp [silent, unasked], ?_⟩
      simpa [only] using Placed.failed e placed

theorem place_course {batch : List Candidate} {t : Transcript} {result : BatchResult}
    (path : Path (place batch) t result) : t.references = [] ∧ Course batch result t.calls := by
  rw [place] at path
  by_cases empty : batch.isEmpty = true
  · simp only [empty, if_true] at path
    obtain ⟨rfl, rfl⟩ := path_pure_iff.mp path
    exact ⟨rfl, .empty (List.isEmpty_iff.mp empty)⟩
  · have nonempty : batch ≠ [] := fun nothing => empty (List.isEmpty_iff.mpr nothing)
    simp only [empty] at path
    obtain ⟨reply, rest, rfl, goesOn⟩ := path_call_iff.mp path
    cases reply with
    | error e =>
      obtain ⟨last, rfl, ends⟩ := path_log_iff.mp goesOn
      obtain ⟨rfl, rfl⟩ := path_pure_iff.mp ends
      exact ⟨rfl, .unchecked nonempty e⟩
    | ok adjusted =>
      change List Candidate at adjusted
      by_cases nothing : adjusted.isEmpty = true
      · simp only [nothing, if_true] at goesOn
        obtain ⟨last, rfl, ends⟩ := path_log_iff.mp goesOn
        obtain ⟨rfl, rfl⟩ := path_pure_iff.mp ends
        have cut : adjusted.length ≠ batch.length := by
          rw [List.isEmpty_iff.mp nothing]
          exact fun same => nonempty (List.length_eq_zero_iff.mp same.symm)
        exact ⟨rfl, .rejected nonempty cut⟩
      · simp only [nothing, Bool.false_eq_true, if_false] at goesOn
        by_cases whole : adjusted.length = batch.length
        · rw [if_neg (fun cut => cut whole)] at goesOn
          obtain ⟨unasked, placed⟩ := placeAll_placed goesOn
          exact ⟨by simp [unasked], .placed nonempty whole placed⟩
        · rw [if_pos whole] at goesOn
          obtain ⟨last, rfl, ends⟩ := path_log_iff.mp goesOn
          obtain ⟨rfl, rfl⟩ := path_pure_iff.mp ends
          exact ⟨rfl, .rejected nonempty whole⟩

end Batch

end QuoteKeeper
