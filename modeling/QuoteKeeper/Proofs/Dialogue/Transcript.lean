import QuoteKeeper.Dialogue

/-!
# Transcripts

A path of a dialogue leaves a transcript, the acts with their answers. A path of two dialogues in a
row is a path of the first followed by one of the second, and a path of a single act is that act
with some answer. What a transcript says about the venue is its calls, what it says about the feed
the reference prices that were asked for.
-/

namespace QuoteKeeper

/-- The acts of a dialogue with their answers, in order. -/
abbrev Transcript := List (Σ a : Act, a.Answer)

/-- A call to the venue with what came back. -/
abbrev Exchange := Σ c : Call, c.Reply

/-- No call of one kind is of another. -/
theorem others_of_kind {calls : List Exchange} {a b : CallKind}
    (all : ∀ x ∈ calls, x.1.kind = a) (different : a ≠ b) : ∀ x ∈ calls, x.1.kind ≠ b := by
  intro x member
  rw [all x member]
  exact different

namespace Dialogue

variable {α β : Type}

theorem path_pure_iff {a result : α} {t : Transcript} :
    Path (pure a : Dialogue α) t result ↔ t = [] ∧ result = a := by
  constructor
  · intro path
    cases path
    exact ⟨rfl, rfl⟩
  · rintro ⟨rfl, rfl⟩
    exact .done result

theorem path_bind_iff {d : Dialogue α} {f : α → Dialogue β} {t : Transcript} {result : β} :
    Path (d >>= f) t result ↔
      ∃ first a rest, t = first ++ rest ∧ Path d first a ∧ Path (f a) rest result := by
  change Path (d.bind f) t result ↔ _
  induction d generalizing t with
  | done a =>
    constructor
    · intro path
      exact ⟨[], a, t, rfl, .done a, path⟩
    · rintro ⟨first, b, rest, rfl, before, after⟩
      cases before
      exact after
  | act a next ih =>
    constructor
    · intro path
      cases path with
      | act tail =>
        obtain ⟨first, b, rest, split, before, after⟩ := (ih _).mp tail
        exact ⟨_ :: first, b, rest, by rw [split, List.cons_append], .act before, after⟩
    · rintro ⟨first, b, rest, rfl, before, after⟩
      cases before with
      | act tail => exact .act ((ih _).mpr ⟨_, b, rest, rfl, tail, after⟩)

theorem path_map_iff {d : Dialogue α} {f : α → β} {t : Transcript} {result : β} :
    Path (f <$> d) t result ↔ ∃ a, Path d t a ∧ result = f a := by
  rw [← bind_pure_comp, path_bind_iff]
  constructor
  · rintro ⟨first, a, rest, rfl, path, last⟩
    obtain ⟨rfl, rfl⟩ := path_pure_iff.mp last
    exact ⟨a, by rwa [List.append_nil], rfl⟩
  · rintro ⟨a, path, rfl⟩
    exact ⟨t, a, [], (List.append_nil t).symm, path, path_pure_iff.mpr ⟨rfl, rfl⟩⟩

theorem path_act_iff {a : Act} {next : a.Answer → Dialogue α} {t : Transcript} {result : α} :
    Path (act a next) t result ↔ ∃ r rest, t = ⟨a, r⟩ :: rest ∧ Path (next r) rest result := by
  constructor
  · intro path
    cases path with
    | act tail => exact ⟨_, _, rfl, tail⟩
  · rintro ⟨r, rest, rfl, tail⟩
    exact .act tail

theorem path_call_iff {c : Call} {f : c.Reply → Dialogue α} {t : Transcript} {result : α} :
    Path (call c >>= f) t result ↔
      ∃ r rest, t = ⟨.call c, r⟩ :: rest ∧ Path (f r) rest result :=
  path_act_iff

theorem path_reference_iff {p : Pair} {f : Option BidAsk → Dialogue α} {t : Transcript}
    {result : α} : Path (reference p >>= f) t result ↔
      ∃ r rest, t = ⟨.reference p, r⟩ :: rest ∧ Path (f r) rest result :=
  path_act_iff

theorem path_feedRunning_iff {f : Bool → Dialogue α} {t : Transcript} {result : α} :
    Path (feedRunning >>= f) t result ↔
      ∃ on rest, t = ⟨.feedRunning, on⟩ :: rest ∧ Path (f on) rest result :=
  path_act_iff

theorem path_startFeed_iff {f : Unit → Dialogue α} {t : Transcript} {result : α} :
    Path (startFeed >>= f) t result ↔
      ∃ rest, t = ⟨.startFeed, ()⟩ :: rest ∧ Path (f ()) rest result :=
  path_act_iff.trans ⟨fun ⟨_, rest, h⟩ => ⟨rest, h⟩, fun ⟨rest, h⟩ => ⟨(), rest, h⟩⟩

theorem path_notify_iff {n : Notice} {f : Except CallError Unit → Dialogue α} {t : Transcript}
    {result : α} : Path (notify n >>= f) t result ↔
      ∃ r rest, t = ⟨.notify n, r⟩ :: rest ∧ Path (f r) rest result :=
  path_act_iff

theorem path_log_iff {line : LogLine} {f : Unit → Dialogue α} {t : Transcript} {result : α} :
    Path (log line >>= f) t result ↔
      ∃ rest, t = ⟨.log line, ()⟩ :: rest ∧ Path (f ()) rest result :=
  path_act_iff.trans ⟨fun ⟨_, rest, h⟩ => ⟨rest, h⟩, fun ⟨rest, h⟩ => ⟨(), rest, h⟩⟩

theorem path_log_last_iff {line : LogLine} {t : Transcript} {result : Unit} :
    Path (log line) t result ↔ t = [⟨.log line, ()⟩] := by
  constructor
  · intro path
    obtain ⟨_, rest, rfl, tail⟩ := path_act_iff.mp path
    cases tail
    rfl
  · rintro rfl
    exact .act (.done ())

/-- What a dialogue comes to if it gets the answers of a transcript; nothing if it asks for anything
else. What the transcript holds beyond its end is left alone. -/
def replay : Dialogue α → Transcript → Option α
  | done a, _ => some a
  | act _ _, [] => none
  | act a next, ⟨b, r⟩ :: rest =>
    if same : b = a then (next (same ▸ r)).replay rest else none

theorem replay_of_path {d : Dialogue α} {t : Transcript} {a : α} (path : Path d t a) :
    d.replay t = some a := by
  induction path with
  | done a => rfl
  | act tail ih =>
    rw [replay, dif_pos rfl]
    exact ih

theorem replay_append {d : Dialogue α} {t : Transcript} {a : α} (replayed : d.replay t = some a)
    (rest : Transcript) : d.replay (t ++ rest) = some a := by
  induction d generalizing t with
  | done b => exact replayed
  | act b next ih =>
    cases t with
    | nil => exact nomatch replayed
    | cons entry t =>
      obtain ⟨c, r⟩ := entry
      rw [List.cons_append]
      rw [replay] at replayed ⊢
      by_cases same : c = b
      · rw [dif_pos same] at replayed ⊢
        exact ih _ replayed
      · rw [dif_neg same] at replayed
        exact nomatch replayed

/-- The transcript that a dialogue leaves in a world. -/
def transcript {σ : Type} (world : World σ) : Dialogue α → σ → Transcript
  | done _, _ => []
  | act a next, s =>
    match world a s with
    | (.error _, _) => []
    | (.ok r, s) => ⟨a, r⟩ :: (next r).transcript world s

/-- A dialogue that comes to its end in a world has gone along a path. -/
theorem path_transcript {σ : Type} {world : World σ} {d : Dialogue α} {s : σ} {a : α}
    (ended : (d.run world s).1 = .ok a) : Path d (d.transcript world s) a := by
  induction d generalizing s with
  | done b =>
    obtain rfl := Except.ok.inj ended
    exact .done b
  | act b next ih =>
    rw [Dialogue.run] at ended
    rw [transcript]
    rcases answered : world b s with ⟨reply, s'⟩
    rw [answered] at ended
    cases reply with
    | error e => exact nomatch ended
    | ok r => exact .act (ih r ended)

/-- A run whose result passes a test has left the transcript of a path to such a result. -/
theorem path_transcript_of_run {σ : Type} {world : World σ} {d : Dialogue α} {s : σ}
    {test : α → Bool} (passed : (d.run world s).1.toOption.any test = true) :
    ∃ a, Path d (d.transcript world s) a ∧ test a = true := by
  cases ended : (d.run world s).1 with
  | error e =>
    rw [ended] at passed
    exact nomatch passed
  | ok a =>
    rw [ended] at passed
    exact ⟨a, path_transcript ended, passed⟩

theorem path_of_run {σ : Type} {world : World σ} {d : Dialogue α} {s : σ} {test : α → Bool}
    (passed : (d.run world s).1.toOption.any test = true) :
    ∃ t a, Path d t a ∧ test a = true := by
  obtain ⟨a, path, tested⟩ := path_transcript_of_run passed
  exact ⟨_, a, path, tested⟩

end Dialogue

namespace Transcript

def exchange? : (Σ a : Act, a.Answer) → Option Exchange
  | ⟨.call c, r⟩ => some ⟨c, r⟩
  | ⟨.notify _, _⟩ | ⟨.feedRunning, _⟩ | ⟨.startFeed, _⟩ | ⟨.stopFeed, _⟩ | ⟨.reference _, _⟩
  | ⟨.log _, _⟩ => none

def asked? : (Σ a : Act, a.Answer) → Option (Pair × Option BidAsk)
  | ⟨.reference p, r⟩ => some (p, r)
  | ⟨.call _, _⟩ | ⟨.notify _, _⟩ | ⟨.feedRunning, _⟩ | ⟨.startFeed, _⟩ | ⟨.stopFeed, _⟩
  | ⟨.log _, _⟩ => none

def running? : (Σ a : Act, a.Answer) → Option Bool
  | ⟨.feedRunning, on⟩ => some on
  | ⟨.call _, _⟩ | ⟨.notify _, _⟩ | ⟨.startFeed, _⟩ | ⟨.stopFeed, _⟩ | ⟨.reference _, _⟩
  | ⟨.log _, _⟩ => none

/-- Whether the feed was running when that was first asked for. -/
def feed? (t : Transcript) : Option Bool := t.findSome? running?

/-- The calls to the venue, with what came back. -/
def calls (t : Transcript) : List Exchange := t.filterMap exchange?

/-- The pairs whose reference price was asked for, with the answers. -/
def references (t : Transcript) : List (Pair × Option BidAsk) := t.filterMap asked?

/-- Neither the venue nor a reference price was asked for. -/
def Quiet (t : Transcript) : Prop := t.calls = [] ∧ t.references = []

@[simp] theorem calls_append (s t : Transcript) : calls (s ++ t) = calls s ++ calls t :=
  List.filterMap_append

@[simp] theorem references_append (s t : Transcript) :
    references (s ++ t) = references s ++ references t :=
  List.filterMap_append

theorem feed?_append {t : Transcript} {on : Bool} (answer : t.feed? = some on)
    (rest : Transcript) : feed? (t ++ rest) = some on := by
  rw [feed?] at *
  rw [List.findSome?_append, answer, Option.some_or]

@[simp] theorem calls_call (c : Call) (r : c.Reply) (t : Transcript) :
    calls (⟨.call c, r⟩ :: t) = ⟨c, r⟩ :: calls t := rfl

@[simp] theorem calls_log (line : LogLine) (u : Unit) (t : Transcript) :
    calls (⟨.log line, u⟩ :: t) = calls t := rfl

@[simp] theorem calls_reference (p : Pair) (r : Option BidAsk) (t : Transcript) :
    calls (⟨.reference p, r⟩ :: t) = calls t := rfl

@[simp] theorem calls_feedRunning (on : Bool) (t : Transcript) :
    calls (⟨.feedRunning, on⟩ :: t) = calls t := rfl

@[simp] theorem references_feedRunning (on : Bool) (t : Transcript) :
    references (⟨.feedRunning, on⟩ :: t) = references t := rfl

@[simp] theorem references_call (c : Call) (r : c.Reply) (t : Transcript) :
    references (⟨.call c, r⟩ :: t) = references t := rfl

@[simp] theorem references_log (line : LogLine) (u : Unit) (t : Transcript) :
    references (⟨.log line, u⟩ :: t) = references t := rfl

@[simp] theorem references_reference (p : Pair) (r : Option BidAsk) (t : Transcript) :
    references (⟨.reference p, r⟩ :: t) = (p, r) :: references t := rfl

@[simp] theorem quiet_nil : Quiet [] := ⟨rfl, rfl⟩

theorem Quiet.log {t : Transcript} (quiet : Quiet t) (line : LogLine) (u : Unit) :
    Quiet (⟨.log line, u⟩ :: t) := quiet

theorem Quiet.notify {t : Transcript} (quiet : Quiet t) (n : Notice) (r : Except CallError Unit) :
    Quiet (⟨.notify n, r⟩ :: t) := quiet

theorem Quiet.append {s t : Transcript} (hs : Quiet s) (ht : Quiet t) : Quiet (s ++ t) :=
  ⟨by rw [calls_append, hs.1, ht.1, List.append_nil],
    by rw [references_append, hs.2, ht.2, List.append_nil]⟩

end Transcript

end QuoteKeeper
