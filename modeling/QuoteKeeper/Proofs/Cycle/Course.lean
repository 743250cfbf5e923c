import QuoteKeeper.Keeper.Basic
import QuoteKeeper.Proofs.Cycle.Candidates
import QuoteKeeper.Proofs.Cycle.Placing
import QuoteKeeper.Proofs.Cycle.Reading
import QuoteKeeper.Proofs.Cycle.Withdrawing

/-!
# The course of a cycle

A cycle either finds the feed stopped, or cannot read the resting orders, or reads the prices and
then goes through its phases: it carries out the first of the two cancel plans that is not empty, or
proposes if both are. Which of these it is, the calls it makes and the summary it ends with are all
said by one relation.
-/

namespace QuoteKeeper

open Dialogue

namespace Progress

variable (settings : Settings) (prices : Prices) (orders : OpenOrders) (now : Instant)

theorem phasesFrom_end {p : Phase} (ended : p.isTerminal = true) (s : Progress) :
    phasesFrom settings prices orders now p s = pure (p, s) := by
  rw [phasesFrom, dif_pos ended]

theorem phasesFrom_next {p : Phase} (goesOn : p.isTerminal = false) (s : Progress) :
    phasesFrom settings prices orders now p s =
      phase settings prices orders now p s >>= fun r =>
        phasesFrom settings prices orders now (p.advance r.1) r.2 := by
  rw [phasesFrom, dif_neg (by rw [goesOn]; exact Bool.false_ne_true)]

/-- What proposing makes of its pass and of what became of the batch. -/
def withBatch (pass : Pass) (result : BatchResult) (s : Progress) : Progress where
  summary :=
    { s.summary with
      skips := s.summary.skips + pass.skips
      proposals := pass.batch.length
      ordersPlaced := result.placed.length
      placeFailures := result.failed
      budgetRejected := result.budgetRejected
      externalFailures :=
        s.summary.externalFailures + pass.failures + result.externalFailures }
  cooldown := pass.cooldown

/-- How the phases can go, with the phase they end in and the calls they make. -/
inductive PhasesCourse (s : Progress) : Phase → Progress → List Exchange → Prop
  | unprofitable {calls : List Exchange} {failed : Nat}
      (nonempty : (CancelPlan.unprofitable settings prices orders).withdrawals ≠ [])
      (canceled : Batch.Canceled (CancelPlan.unprofitable settings prices orders).withdrawals
        calls failed) :
      PhasesCourse s (.blocked .unprofitable)
        (s.withCancels .unprofitable (CancelPlan.unprofitable settings prices orders) now failed)
        calls
  | outbid {calls : List Exchange} {failed : Nat}
      (nothing : (CancelPlan.unprofitable settings prices orders).withdrawals = [])
      (nonempty : (CancelPlan.outbid settings prices orders).withdrawals ≠ [])
      (canceled : Batch.Canceled (CancelPlan.outbid settings prices orders).withdrawals
        calls failed) :
      PhasesCourse s (.blocked .outbid)
        ((s.withCancels .unprofitable (CancelPlan.unprofitable settings prices orders) now
          0).withCancels .outbid (CancelPlan.outbid settings prices orders) now failed)
        calls
  | proposed {pass : Pass} {result : BatchResult} {balances calls : List Exchange}
      (nothing : (CancelPlan.unprofitable settings prices orders).withdrawals = [])
      (nothing' : (CancelPlan.outbid settings prices orders).withdrawals = [])
      (passed : PassCourse settings prices orders now settings.pairs s.cooldown pass balances)
      (placed : Batch.Course pass.batch result calls) :
      PhasesCourse s .done
        (((s.withCancels .unprofitable (CancelPlan.unprofitable settings prices orders) now
          0).withCancels .outbid (CancelPlan.outbid settings prices orders) now 0).withBatch
            pass result)
        (balances ++ calls)

variable {settings prices orders now}

theorem proposePhase_course {s s' : Progress} {t : Transcript}
    (path : Path (proposePhase settings prices orders now s) t s') :
    t.references = [] ∧ ∃ pass result balances calls, t.calls = balances ++ calls ∧
      PassCourse settings prices orders now settings.pairs s.cooldown pass balances ∧
      Batch.Course pass.batch result calls ∧ s' = s.withBatch pass result := by
  obtain ⟨first, pass, rest, rfl, proposes, goesOn⟩ := path_bind_iff.mp path
  obtain ⟨second, result, last, rfl, places, ends⟩ := path_bind_iff.mp goesOn
  obtain ⟨rfl, rfl⟩ := path_pure_iff.mp ends
  obtain ⟨unasked, passed⟩ := propose_course proposes
  obtain ⟨silent, placed⟩ := Batch.place_course places
  exact ⟨by simp [unasked, silent], pass, result, _, _, by simp, passed, placed, rfl⟩

/-- The phases do not read any book. -/
theorem PhasesCourse.unread {s s' : Progress} {p : Phase} {calls : List Exchange}
    (phases : PhasesCourse settings prices orders now s p s' calls) :
    ∀ x ∈ calls, x.1.kind ≠ .topOfBook := by
  cases phases with
  | unprofitable nonempty canceled | outbid nothing nonempty canceled =>
    exact others_of_kind canceled.kind (by decide)
  | proposed nothing nothing' passed placed =>
    exact List.forall_mem_append.mpr
      ⟨others_of_kind passed.onlyBalances (by decide), placed.others (by decide) (by decide)⟩

theorem withCancels_cooldown {reason : CancelReason} {plan : CancelPlan} {failed : Nat}
    {s : Progress} (nothing : plan.withdrawals = []) :
    (s.withCancels reason plan now failed).cooldown = s.cooldown := by
  simp [withCancels, nothing]

/-- A cancel phase with nothing to cancel makes no call. -/
theorem cancelPhase_idle {reason : CancelReason} {plan : CancelPlan} {s s' : Progress}
    {t : Transcript} {actions : Nat} (nothing : plan.withdrawals = [])
    (path : Path (cancelPhase reason plan now s) t (actions, s')) :
    actions = 0 ∧ t.Quiet ∧ s' = s.withCancels reason plan now 0 := by
  obtain ⟨rfl, unasked, -, failed, canceled, rfl⟩ := cancelPhase_canceled path
  rw [nothing] at canceled
  generalize calls : t.calls = made at canceled
  cases canceled
  exact ⟨by rw [nothing, List.length_nil], ⟨calls, unasked⟩, rfl⟩

theorem proposeOnly_course {s s' : Progress} {p : Phase} {t : Transcript}
    (path : Path (phasesFrom settings prices orders now .propose s) t (p, s')) :
    t.references = [] ∧ p = .done ∧ ∃ pass result balances calls, t.calls = balances ++ calls ∧
      PassCourse settings prices orders now settings.pairs s.cooldown pass balances ∧
      Batch.Course pass.batch result calls ∧ s' = s.withBatch pass result := by
  rw [phasesFrom_next settings prices orders now rfl] at path
  obtain ⟨first, ⟨actions, s₁⟩, rest, rfl, acts, goesOn⟩ := path_bind_iff.mp path
  obtain ⟨proposing, s₂, last, rfl, proposes, ends⟩ := path_bind_iff.mp acts
  obtain ⟨rfl, counted⟩ := path_pure_iff.mp ends
  obtain ⟨rfl, rfl⟩ := Prod.mk.inj counted
  have finished := phasesFrom_end settings prices orders now (p := .done) rfl s₁
  obtain ⟨rfl, result⟩ := path_pure_iff.mp (finished ▸ goesOn)
  obtain ⟨rfl, rfl⟩ := Prod.mk.inj result
  obtain ⟨unasked, course⟩ := proposePhase_course proposes
  rw [List.append_nil, List.append_nil]
  exact ⟨unasked, rfl, course⟩

/-- The plan that cancels for a reason, if a phase has it. -/
def planFor (settings : Settings) (prices : Prices) (orders : OpenOrders) :
    CancelReason → CancelPlan
  | .unprofitable => CancelPlan.unprofitable settings prices orders
  | .outbid => CancelPlan.outbid settings prices orders
  | .shutdown => {}

/-- If the phases end with cancels, each is announced with the withdrawal it carries out. -/
def Announced (settings : Settings) (prices : Prices) (orders : OpenOrders) (p : Phase)
    (t : Transcript) : Prop :=
  ∀ reason, p = .blocked reason → ∀ w ∈ (planFor settings prices orders reason).withdrawals,
    ⟨.log (Batch.withdrawLine w), ()⟩ ∈ t

theorem phases_course {s s' : Progress} {p : Phase} {t : Transcript}
    (path : Path (phasesFrom settings prices orders now .cancelUnprofitable s) t (p, s')) :
    t.references = [] ∧ PhasesCourse settings prices orders now s p s' t.calls ∧
      Announced settings prices orders p t := by
  rw [phasesFrom_next settings prices orders now rfl] at path
  obtain ⟨first, ⟨actions, s₁⟩, rest, rfl, cancels, goesOn⟩ := path_bind_iff.mp path
  by_cases nothing : (CancelPlan.unprofitable settings prices orders).withdrawals = []
  · obtain ⟨rfl, quiet, rfl⟩ := cancelPhase_idle nothing cancels
    have second := phasesFrom_next settings prices orders now (p := .cancelOutbid) rfl
    obtain ⟨third, ⟨others, s₂⟩, last, rfl, outbids, ends⟩ := path_bind_iff.mp (second _ ▸ goesOn)
    by_cases nothing' : (CancelPlan.outbid settings prices orders).withdrawals = []
    · obtain ⟨rfl, quiet', rfl⟩ := cancelPhase_idle nothing' outbids
      obtain ⟨unasked, rfl, pass, result, balances, calls, split, passed, placed, rfl⟩ :=
        proposeOnly_course ends
      rw [withCancels_cooldown nothing', withCancels_cooldown nothing] at passed
      refine ⟨by simp [quiet.2, quiet'.2, unasked], ?_, nofun⟩
      simpa [quiet.1, quiet'.1, split] using
        PhasesCourse.proposed nothing nothing' passed placed
    · obtain ⟨rfl, unasked, announced, failed, canceled, rfl⟩ := cancelPhase_canceled outbids
      have acted := List.length_pos_iff.mpr nothing'
      simp only [Phase.advance, acted, if_true] at ends
      rw [phasesFrom_end settings prices orders now rfl] at ends
      obtain ⟨rfl, result⟩ := path_pure_iff.mp ends
      obtain ⟨rfl, rfl⟩ := Prod.mk.inj result
      refine ⟨by simp [quiet.2, unasked], ?_, ?_⟩
      · simpa [quiet.1] using PhasesCourse.outbid nothing nothing' canceled
      · intro reason same w member
        cases same
        exact List.mem_append_right _ (List.mem_append_left _ (announced w member))
  · obtain ⟨rfl, unasked, announced, failed, canceled, rfl⟩ := cancelPhase_canceled cancels
    have acted := List.length_pos_iff.mpr nothing
    simp only [Phase.advance, acted, if_true] at goesOn
    rw [phasesFrom_end settings prices orders now rfl] at goesOn
    obtain ⟨rfl, result⟩ := path_pure_iff.mp goesOn
    obtain ⟨rfl, rfl⟩ := Prod.mk.inj result
    rw [List.append_nil]
    refine ⟨unasked, .unprofitable nothing canceled, ?_⟩
    intro reason same w member
    cases same
    exact announced w member

/-- How a cycle ends once its last phase is known. -/
def concluded (p : Phase) (s : Progress) : Progress :=
  match p with
  | .blocked reason => { s with summary := { s.summary with outcome := .blocked reason } }
  | _ => { s with summary := { s.summary with outcome := .completed } }

theorem conclude_path {p : Phase} {s s' : Progress} {t : Transcript}
    (path : Path (conclude p s) t s') : t.Quiet ∧ s' = s.concluded p := by
  cases p with
  | blocked reason =>
    obtain ⟨rest, rfl, ends⟩ := path_log_iff.mp path
    obtain ⟨rfl, rfl⟩ := path_pure_iff.mp ends
    exact ⟨Transcript.quiet_nil.log _ _, rfl⟩
  | cancelUnprofitable | cancelOutbid | propose | done =>
    obtain ⟨rfl, rfl⟩ := path_pure_iff.mp path
    exact ⟨Transcript.quiet_nil, rfl⟩

/-- What a cycle reads of the prices before its phases, if it gets that far. -/
def survey (pairs : List Pair) : Dialogue (Option (List (Pair × Reading))) := do
  if ← feedRunning then
    match ← OpenOrders.read pairs with
    | .error _ => return none
    | .ok _ => some <$> Reading.ofPairs pairs
  else
    return none

/-- What a cycle over some pairs has read of the prices. -/
def readings? (pairs : List Pair) (t : Transcript) : Option (List (Pair × Reading)) :=
  ((survey pairs).replay t).join

/-- How a cycle can go: what its transcript shows and what it comes to. -/
inductive Course (settings : Settings) (cycle : Nat) (cooldown : Cooldown) (now : Instant)
    (t : Transcript) : Progress → Prop
  | starting (feed : t.feed? = some false) (quiet : t.Quiet) :
      Course settings cycle cooldown now t
        { summary := { cycle, outcome := .feedStarting }, cooldown }
  | aborted {e : CallError} (feed : t.feed? = some true) (unasked : t.references = [])
      (made : t.calls = [⟨.openOrders, .error e⟩]) :
      Course settings cycle cooldown now t
        { summary :=
            { cycle
              outcome := .aborted (Failure.venueCall "open_orders" e).message
              externalFailures := 1 }
          cooldown }
  | ran {orders : List RestingOrder} {readings : List (Pair × Reading)}
      {reads calls : List Exchange} {p : Phase} {s : Progress} (feed : t.feed? = some true)
      (made : t.calls = ⟨.openOrders, .ok orders⟩ :: (reads ++ calls))
      (order : t.references.map (·.1) = settings.pairs)
      (read : Reading.Courses t.references readings reads)
      (shown : readings? settings.pairs t = some readings)
      (phases : PhasesCourse settings (Prices.ofReadings readings)
        { managed := settings.pairs, orders } now
        { summary := opening cycle (Prices.ofReadings readings), cooldown } p s calls)
      (announced : Announced settings (Prices.ofReadings readings)
        { managed := settings.pairs, orders } p t) :
      Course settings cycle cooldown now t (s.concluded p)

theorem logIgnored_quiet {managed : List Pair} {orders : List RestingOrder} {t : Transcript}
    {u : Unit} (path : Path (OpenOrders.logIgnored managed orders) t u) : t.Quiet := by
  induction orders generalizing t with
  | nil =>
    obtain ⟨rfl, -⟩ := path_pure_iff.mp path
    exact Transcript.quiet_nil
  | cons o orders ih =>
    rw [OpenOrders.logIgnored] at path
    split at path
    · exact ih path
    · obtain ⟨rest, rfl, goesOn⟩ := path_log_iff.mp path
      exact (ih goesOn).log _ _

theorem Announced.mono {p : Phase} {s t : Transcript}
    (announced : Announced settings prices orders p s) (within : ∀ x ∈ s, x ∈ t) :
    Announced settings prices orders p t :=
  fun reason same w member => within _ (announced reason same w member)

theorem withOrders_course {cycle : Nat} {cooldown : Cooldown} {orders : List RestingOrder}
    {t : Transcript} {s : Progress}
    (path : Path (withOrders settings cycle cooldown now ⟨settings.pairs, orders⟩) t s) :
    ∃ readings reads calls p s₁,
      (∃ first rest, t = first ++ rest ∧ Path (Reading.ofPairs settings.pairs) first readings) ∧
      t.calls = reads ++ calls ∧ t.references.map (·.1) = settings.pairs ∧
      Reading.Courses t.references readings reads ∧
      PhasesCourse settings (Prices.ofReadings readings) ⟨settings.pairs, orders⟩ now
        { summary := opening cycle (Prices.ofReadings readings), cooldown } p s₁ calls ∧
      Announced settings (Prices.ofReadings readings) ⟨settings.pairs, orders⟩ p t ∧
      s = s₁.concluded p := by
  obtain ⟨first, prices, rest, rfl, reads, goesOn⟩ := path_bind_iff.mp path
  obtain ⟨readings, collects, rfl⟩ := path_map_iff.mp reads
  obtain ⟨second, ⟨p, s₁⟩, last, rfl, phases, ends⟩ := path_bind_iff.mp goesOn
  obtain ⟨quiet, rfl⟩ := conclude_path ends
  obtain ⟨order, read⟩ := Reading.ofPairs_courses collects
  obtain ⟨unasked, went, announced⟩ := phases_course phases
  have asked : Transcript.references (first ++ (second ++ last)) = first.references := by
    simp [quiet.2, unasked]
  rw [asked]
  refine ⟨readings, _, _, p, s₁, ⟨first, _, rfl, collects⟩, by simp [quiet.1], order, read, went,
    ?_, rfl⟩
  exact announced.mono fun x member => List.mem_append_right _ (List.mem_append_left _ member)

theorem ofCycle_course {cycle : Nat} {cooldown : Cooldown} {t : Transcript} {s : Progress}
    (path : Path (ofCycle settings cycle cooldown now) t s) :
    Course settings cycle cooldown now t s := by
  obtain ⟨running, rest, rfl, goesOn⟩ := path_feedRunning_iff.mp path
  cases running with
  | false =>
    obtain ⟨first, rfl, logs⟩ := path_startFeed_iff.mp goesOn
    obtain ⟨second, rfl, ends⟩ := path_log_iff.mp logs
    obtain ⟨rfl, rfl⟩ := path_pure_iff.mp ends
    exact .starting rfl ⟨rfl, rfl⟩
  | true =>
    obtain ⟨first, read, last, rfl, reads', runs⟩ := path_bind_iff.mp goesOn
    obtain ⟨reply, more, rfl, answered⟩ := path_call_iff.mp reads'
    cases reply with
    | error e =>
      obtain ⟨rfl, rfl⟩ := path_pure_iff.mp answered
      obtain ⟨after, rfl, ends⟩ := path_log_iff.mp runs
      obtain ⟨rfl, rfl⟩ := path_pure_iff.mp ends
      exact .aborted rfl rfl rfl
    | ok orders =>
      obtain ⟨known, snapshot, after, rfl, logs, ends⟩ := path_bind_iff.mp answered
      obtain ⟨rfl, rfl⟩ := path_pure_iff.mp ends
      obtain ⟨ignoring, u, nothing, rfl, ignores, ends⟩ := path_bind_iff.mp logs
      obtain ⟨rfl, rfl⟩ := path_pure_iff.mp ends
      have quiet := logIgnored_quiet ignores
      obtain ⟨readings, reads, calls, p, s₁, ⟨before, after, split, collects⟩, made, order, read,
        phases, announced, rfl⟩ := withOrders_course runs
      have made' : Transcript.calls (⟨.feedRunning, true⟩ :: (⟨.call .openOrders, .ok orders⟩ ::
          (ignoring ++ [] ++ []) ++ last)) = ⟨.openOrders, .ok orders⟩ :: (reads ++ calls) := by
        simp [quiet.1, made]
      have asked : Transcript.references (⟨.feedRunning, true⟩ ::
          (⟨.call .openOrders, .ok orders⟩ :: (ignoring ++ [] ++ []) ++ last)) =
          last.references := by
        simp [quiet.2]
      have shown : readings? settings.pairs (⟨.feedRunning, true⟩ ::
          (⟨.call .openOrders, .ok orders⟩ :: (ignoring ++ [] ++ []) ++ last)) = some readings := by
        have surveyed : Path (survey settings.pairs) (⟨.feedRunning, true⟩ ::
            (⟨.call .openOrders, .ok orders⟩ :: (ignoring ++ [] ++ []) ++ before))
            (some readings) :=
          path_feedRunning_iff.mpr ⟨true, _, rfl, path_bind_iff.mpr
            ⟨_, _, before, rfl, reads', path_map_iff.mpr ⟨readings, collects, rfl⟩⟩⟩
        have replayed := replay_append (replay_of_path surveyed) after
        rw [List.cons_append, List.append_assoc, ← split] at replayed
        rw [readings?, replayed]
        rfl
      refine .ran rfl made' (asked ▸ order) (asked ▸ read) shown phases
        (announced.mono fun x member => ?_)
      exact List.mem_cons_of_mem _ (List.mem_append_right _ member)

theorem readings?_append {pairs : List Pair} {t : Transcript} {readings : List (Pair × Reading)}
    (shown : readings? pairs t = some readings) (rest : Transcript) :
    readings? pairs (t ++ rest) = some readings := by
  have replayed := Option.join_eq_some_iff.mp shown
  rw [readings?, replay_append replayed rest, Option.join_some]

/-- What is said afterwards, without asking for anything, does not change the course. -/
theorem Course.append {cycle : Nat} {cooldown : Cooldown} {t rest : Transcript} {s : Progress}
    (course : Course settings cycle cooldown now t s) (quiet : rest.Quiet) :
    Course settings cycle cooldown now (t ++ rest) s := by
  cases course with
  | starting feed silent =>
    exact .starting (Transcript.feed?_append feed rest) (silent.append quiet)
  | aborted feed unasked made =>
    exact .aborted (Transcript.feed?_append feed rest)
      (by rw [Transcript.references_append, unasked, quiet.2, List.append_nil])
      (by rw [Transcript.calls_append, made, quiet.1, List.append_nil])
  | ran feed made order read shown phases announced =>
    have asked : Transcript.references (t ++ rest) = t.references := by
      rw [Transcript.references_append, quiet.2, List.append_nil]
    exact .ran (Transcript.feed?_append feed rest)
      (by rw [Transcript.calls_append, made, quiet.1, List.append_nil]) (asked ▸ order)
      (asked ▸ read) (readings?_append shown rest) phases
      (announced.mono fun x member => List.mem_append_left _ member)

end Progress

namespace Keeper

theorem send_quiet {notice : Notice} {what : String} {t : Transcript} {u : Unit}
    (path : Path (send notice what) t u) : t.Quiet := by
  obtain ⟨r, rest, rfl, goesOn⟩ := path_notify_iff.mp path
  cases r with
  | ok v =>
    obtain ⟨rfl, -⟩ := path_pure_iff.mp goesOn
    exact Transcript.quiet_nil.notify _ _
  | error e =>
    rw [path_log_last_iff.mp goesOn]
    exact (Transcript.quiet_nil.log _ _).notify _ _

theorem report_quiet {venue : String} {s : CycleSummary} {t : Transcript} {u : Unit}
    (path : Path (report venue s) t u) : t.Quiet := by
  obtain ⟨rest, rfl, goesOn⟩ := path_log_iff.mp path
  split at goesOn
  · exact (send_quiet goesOn).log _ _
  · obtain ⟨rfl, -⟩ := path_pure_iff.mp goesOn
    exact Transcript.quiet_nil.log _ _

/-- A cycle is what its progress comes to, and then the report of it. -/
theorem cycle_path_iff {k k' : Keeper} {now : Instant} {t : Transcript} {s : CycleSummary} :
    Path (k.cycle now) t (s, k') ↔ ∃ first progress rest, t = first ++ rest ∧
      Path (Progress.ofCycle k.settings (k.cycles + 1) k.cooldown now) first progress ∧
      Path (report k.settings.venue progress.summary) rest () ∧
      s = progress.summary ∧ k' = k.after progress := by
  constructor
  · intro path
    obtain ⟨first, progress, rest, rfl, goes, goesOn⟩ := path_bind_iff.mp path
    obtain ⟨second, u, last, rfl, reports, ends⟩ := path_bind_iff.mp goesOn
    obtain ⟨rfl, result⟩ := path_pure_iff.mp ends
    obtain ⟨summary, after⟩ := Prod.mk.inj result
    exact ⟨first, progress, second, by rw [List.append_nil], goes, reports, summary, after⟩
  · rintro ⟨first, progress, rest, rfl, goes, reports, rfl, rfl⟩
    refine path_bind_iff.mpr ⟨first, progress, rest, rfl, goes, ?_⟩
    exact path_bind_iff.mpr ⟨rest, (), [], (List.append_nil rest).symm, reports, .done _⟩

theorem cycle_course {k k' : Keeper} {now : Instant} {t : Transcript} {s : CycleSummary}
    (path : Path (k.cycle now) t (s, k')) :
    ∃ progress, Progress.Course k.settings (k.cycles + 1) k.cooldown now t progress ∧
      s = progress.summary ∧ k' = k.after progress := by
  obtain ⟨first, progress, rest, rfl, goes, reports, summary, after⟩ := cycle_path_iff.mp path
  have course := (Progress.ofCycle_course goes).append (report_quiet reports)
  exact ⟨progress, course, summary, after⟩

end Keeper

end QuoteKeeper
