import QuoteKeeper.Proofs.Dialogue.Transcript

/-!
# Plain dialogues

A plain dialogue sends no notice and does not ask whether the feed is running. What becomes of it is
told by the answers of the venue and by the reference prices alone: two paths of it are one path if
the venue answers alike for as long as it is called alike, and no pair has two reference prices.

Of a path often only its calls and its result matter; which there can be is built up act by act.
-/

namespace QuoteKeeper

namespace Transcript

def notice? : (Σ a : Act, a.Answer) → Option Notice
  | ⟨.notify n, _⟩ => some n
  | ⟨.call _, _⟩ | ⟨.feedRunning, _⟩ | ⟨.startFeed, _⟩ | ⟨.stopFeed, _⟩ | ⟨.reference _, _⟩
  | ⟨.log _, _⟩ => none

/-- The notices that are sent, delivered or not. -/
def notices (t : Transcript) : List Notice := t.filterMap notice?

@[simp] theorem notices_append (s t : Transcript) : notices (s ++ t) = notices s ++ notices t :=
  List.filterMap_append

@[simp] theorem notices_log (line : LogLine) (u : Unit) (t : Transcript) :
    notices (⟨.log line, u⟩ :: t) = notices t := rfl

@[simp] theorem notices_notify (n : Notice) (r : Except CallError Unit) (t : Transcript) :
    notices (⟨.notify n, r⟩ :: t) = n :: notices t := rfl

@[simp] theorem notices_feedRunning (on : Bool) (t : Transcript) :
    notices (⟨.feedRunning, on⟩ :: t) = notices t := rfl

end Transcript

/-- The venue answers alike for as long as it is called alike. -/
def SameAnswers : List Exchange → List Exchange → Prop
  | x :: xs, y :: ys => x.1 = y.1 → x = y ∧ SameAnswers xs ys
  | _, _ => True

theorem SameAnswers.refl (calls : List Exchange) : SameAnswers calls calls := by
  induction calls with
  | nil => trivial
  | cons x xs ih =>
    intro called
    exact ⟨rfl, ih⟩

/-- Of no pair do the two know different reference prices. -/
def SameReferences (asked asked' : List (Pair × Option BidAsk)) : Prop :=
  ∀ p r r', (p, r) ∈ asked → (p, r') ∈ asked' → r' = r

namespace Dialogue

variable {α β : Type}

/-- No notice is sent, and it is not asked whether the feed is running. -/
inductive Plain : Dialogue α → Prop
  | done (a : α) : Plain (done a)
  | call {c : Call} {next : c.Reply → Dialogue α} (each : ∀ r, Plain (next r)) :
      Plain (act (.call c) next)
  | reference {p : Pair} {next : Option BidAsk → Dialogue α} (each : ∀ r, Plain (next r)) :
      Plain (act (.reference p) next)
  | startFeed {next : Unit → Dialogue α} (each : ∀ u, Plain (next u)) :
      Plain (act .startFeed next)
  | log {line : LogLine} {next : Unit → Dialogue α} (each : ∀ u, Plain (next u)) :
      Plain (act (.log line) next)

theorem plain_pure (a : α) : Plain (pure a : Dialogue α) := .done a

theorem plain_call (c : Call) : Plain (Dialogue.call c) := .call .done

theorem plain_reference (p : Pair) : Plain (Dialogue.reference p) := .reference .done

theorem plain_startFeed : Plain Dialogue.startFeed := .startFeed .done

theorem plain_log (line : LogLine) : Plain (Dialogue.log line) := .log .done

theorem Plain.bind {d : Dialogue α} {f : α → Dialogue β} (plain : Plain d)
    (each : ∀ a, Plain (f a)) : Plain (d >>= f) := by
  induction plain with
  | done a => exact each a
  | call _ ih => exact .call ih
  | reference _ ih => exact .reference ih
  | startFeed _ ih => exact .startFeed ih
  | log _ ih => exact .log ih

theorem Plain.map {d : Dialogue α} (plain : Plain d) (f : α → β) : Plain (f <$> d) := by
  rw [← bind_pure_comp]
  exact plain.bind fun a => plain_pure (f a)

theorem Plain.notices {d : Dialogue α} (plain : Plain d) {t : Transcript} {a : α}
    (path : Path d t a) : t.notices = [] := by
  induction plain generalizing t with
  | done b =>
    cases path
    rfl
  | call _ ih | reference _ ih | startFeed _ ih | log _ ih =>
    obtain ⟨r, rest, rfl, tail⟩ := path_act_iff.mp path
    have silent := ih r tail
    exact silent

/-- By the answers so far each of the two paths goes on with the same act, and gets the same answer
to it. -/
theorem Plain.unique {d : Dialogue α} (plain : Plain d) {t t' : Transcript} {a a' : α}
    (path : Path d t a) (path' : Path d t' a') (answers : SameAnswers t.calls t'.calls)
    (told : SameReferences t.references t'.references) : t' = t ∧ a' = a := by
  induction plain generalizing t t' with
  | done b =>
    cases path
    cases path'
    exact ⟨rfl, rfl⟩
  | call _ ih =>
    obtain ⟨r, rest, rfl, tail⟩ := path_act_iff.mp path
    obtain ⟨r', rest', rfl, tail'⟩ := path_act_iff.mp path'
    obtain ⟨same, later⟩ := answers rfl
    cases same
    obtain ⟨rfl, result⟩ := ih r tail tail' later told
    exact ⟨rfl, result⟩
  | @reference p _ _ ih =>
    obtain ⟨r, rest, rfl, tail⟩ := path_act_iff.mp path
    obtain ⟨r', rest', rfl, tail'⟩ := path_act_iff.mp path'
    obtain rfl : r' = r := told p r r' List.mem_cons_self List.mem_cons_self
    obtain ⟨rfl, result⟩ := ih r' tail tail' answers fun q s s' left right =>
      told q s s' (List.mem_cons_of_mem _ left) (List.mem_cons_of_mem _ right)
    exact ⟨rfl, result⟩
  | startFeed _ ih | log _ ih =>
    obtain ⟨u, rest, rfl, tail⟩ := path_act_iff.mp path
    obtain ⟨u', rest', rfl, tail'⟩ := path_act_iff.mp path'
    obtain ⟨rfl, result⟩ := ih u tail tail' answers told
    exact ⟨rfl, result⟩

/-- The dialogue can come to this result, with these calls. -/
def Goes (d : Dialogue α) (calls : List Exchange) (a : α) : Prop :=
  ∃ t : Transcript, Path d t a ∧ t.calls = calls

theorem goes_pure (a : α) : Goes (pure a) [] a := ⟨[], .done a, rfl⟩

theorem Goes.bind {d : Dialogue α} {f : α → Dialogue β} {calls more : List Exchange} {a : α}
    {b : β} (goes : Goes d calls a) (later : Goes (f a) more b) :
    Goes (d >>= f) (calls ++ more) b := by
  obtain ⟨t, path, rfl⟩ := goes
  obtain ⟨u, path', rfl⟩ := later
  refine ⟨t ++ u, path_bind_iff.mpr ⟨t, a, u, rfl, path, path'⟩, ?_⟩
  exact Transcript.calls_append t u

theorem Goes.last {d : Dialogue α} {f : α → β} {calls : List Exchange} {a : α}
    (goes : Goes d calls a) : Goes (d >>= fun a => pure (f a)) calls (f a) := by
  have whole := goes.bind (f := fun a => pure (f a)) (goes_pure (f a))
  rwa [List.append_nil] at whole

theorem Goes.call {c : Call} {f : c.Reply → Dialogue α} {calls : List Exchange} {a : α}
    (r : c.Reply) (later : Goes (f r) calls a) :
    Goes (Dialogue.call c >>= f) (⟨c, r⟩ :: calls) a := by
  obtain ⟨t, path, rfl⟩ := later
  exact ⟨⟨.call c, r⟩ :: t, .act path, rfl⟩

theorem Goes.log {line : LogLine} {f : Unit → Dialogue α} {calls : List Exchange} {a : α}
    (later : Goes (f ()) calls a) : Goes (Dialogue.log line >>= f) calls a := by
  obtain ⟨t, path, rfl⟩ := later
  exact ⟨⟨.log line, ()⟩ :: t, .act path, rfl⟩

end Dialogue

end QuoteKeeper
