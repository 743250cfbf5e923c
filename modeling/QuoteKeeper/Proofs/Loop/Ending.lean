import QuoteKeeper.Proofs.Loop.Serving
import QuoteKeeper.Proofs.Venue.Serving

/-!
# The end of a run

The loop stops the feed, once. If it is so set it then lists the resting orders and cancels each of
them, once and whatever becomes of the others; it makes no other call. If neither the list nor a
cancel fails at the paper venue, no order is left. After that nothing is served.
-/

namespace QuoteKeeper

open Dialogue

theorem Dialogue.path_stopFeed_iff {α : Type} {f : Unit → Dialogue α} {t : Transcript}
    {result : α} : Path (stopFeed >>= f) t result ↔
      ∃ rest, t = ⟨.stopFeed, ()⟩ :: rest ∧ Path (f ()) rest result :=
  path_act_iff.trans ⟨fun ⟨_, rest, h⟩ => ⟨rest, h⟩, fun ⟨rest, h⟩ => ⟨(), rest, h⟩⟩

namespace Transcript

variable (t : Transcript)

@[simp] theorem calls_stopFeed (u : Unit) : calls (⟨.stopFeed, u⟩ :: t) = calls t := rfl

@[simp] theorem notices_stopFeed (u : Unit) : notices (⟨.stopFeed, u⟩ :: t) = notices t := rfl

@[simp] theorem deeds_stopFeed (u : Unit) :
    deeds (⟨.stopFeed, u⟩ :: t) = ⟨.stopFeed, u⟩ :: deeds t := rfl

@[simp] theorem stops_stopFeed (u : Unit) : stops (⟨.stopFeed, u⟩ :: t) = stops t + 1 :=
  List.count_cons_self

@[simp] theorem stops_log (line : LogLine) (u : Unit) : stops (⟨.log line, u⟩ :: t) = stops t :=
  List.count_cons_of_ne Act.noConfusion

end Transcript

def RestingOrder.cancelCall (o : RestingOrder) : Call := .cancel o.pair o.id

namespace Keeper

/-- Each order is canceled in its turn, and those calls are counted that went through. -/
theorem cancelEach_calls {orders : List RestingOrder} {t : Transcript} {n : Nat}
    (path : Path (cancelEach orders) t n) :
    t.calls.map (·.1) = orders.map (·.cancelCall) ∧ n = t.calls.countP wentThrough := by
  induction orders generalizing t n with
  | nil =>
    obtain ⟨rfl, rfl⟩ := path_pure_iff.mp path
    exact ⟨rfl, rfl⟩
  | cons o orders ih =>
    obtain ⟨first, r, rest, rfl, cancels, goesOn⟩ := path_bind_iff.mp path
    obtain ⟨line, rfl, called⟩ := path_log_iff.mp cancels
    obtain ⟨second, m, last, rfl, others, ends⟩ := path_bind_iff.mp goesOn
    obtain ⟨rfl, rfl⟩ := path_pure_iff.mp ends
    obtain ⟨calls, count⟩ := ih others
    rw [List.append_nil, Transcript.calls_append, Transcript.calls_log, List.map_append, calls,
      List.countP_append, ← count]
    rcases Batch.cancelCall_path called with ⟨-, ⟨made, rfl⟩ | ⟨e, failure, made, rfl⟩⟩
    · rw [made]
      exact ⟨rfl, Nat.add_comm m 1⟩
    · rw [made]
      exact ⟨rfl, (Nat.zero_add m).symm⟩

/-- Either the list fails and nothing is canceled, or each order on it is. -/
theorem cancelAll_calls {t : Transcript} {n : Nat} (path : Path cancelAll t n) :
    (∃ e, t.calls = [⟨.openOrders, .error e⟩] ∧ n = 0) ∨
      ∃ orders cancels, t.calls = ⟨.openOrders, .ok orders⟩ :: cancels ∧
        cancels.map (·.1) = orders.map (·.cancelCall) ∧ n = cancels.countP wentThrough := by
  obtain ⟨reply, rest, rfl, goesOn⟩ := path_call_iff.mp path
  cases reply with
  | error e =>
    obtain ⟨last, rfl, ends⟩ := path_log_iff.mp goesOn
    obtain ⟨rfl, rfl⟩ := path_pure_iff.mp ends
    exact .inl ⟨e, rfl, rfl⟩
  | ok orders =>
    obtain ⟨after, rfl, each⟩ := path_log_iff.mp goesOn
    obtain ⟨first, canceled, last, rfl, cancels, ends⟩ := path_bind_iff.mp each
    obtain ⟨calls, count⟩ := cancelEach_calls cancels
    have silent : last.calls = [] ∧ n = canceled := by
      split at ends
      · obtain ⟨more, rfl, done⟩ := path_log_iff.mp ends
        obtain ⟨rfl, rfl⟩ := path_pure_iff.mp done
        exact ⟨rfl, rfl⟩
      · obtain ⟨more, rfl, done⟩ := path_log_iff.mp ends
        obtain ⟨rfl, rfl⟩ := path_pure_iff.mp done
        exact ⟨rfl, rfl⟩
    refine .inr ⟨orders, first.calls, ?_, calls, silent.2.trans count⟩
    rw [Transcript.calls_call, Transcript.calls_log, Transcript.calls_append, silent.1,
      List.append_nil]

theorem cancels_kind {orders : List RestingOrder} {cancels : List Exchange}
    (each : cancels.map (·.1) = orders.map (·.cancelCall)) : ∀ x ∈ cancels, x.1.kind = .cancel := by
  intro x member
  have called : x.1 ∈ orders.map (·.cancelCall) := each ▸ List.mem_map_of_mem member
  obtain ⟨o, -, same⟩ := List.mem_map.mp called
  rw [← same]
  rfl

theorem cancelAll_kinds {t : Transcript} {n : Nat} (path : Path cancelAll t n) :
    ∀ x ∈ t.calls, x.1.kind = .openOrders ∨ x.1.kind = .cancel := by
  rcases cancelAll_calls path with ⟨e, made, -⟩ | ⟨orders, cancels, made, each, -⟩
  · rw [made]
    exact List.forall_mem_singleton.mpr (.inl rfl)
  · rw [made]
    exact List.forall_mem_cons.mpr ⟨.inl rfl, fun x member => .inr (cancels_kind each x member)⟩

theorem cancelEach_plain (orders : List RestingOrder) : Plain (cancelEach orders) := by
  induction orders with
  | nil => exact plain_pure _
  | cons o orders ih =>
    refine Plain.bind ?_ fun r => ih.bind fun _ => plain_pure _
    refine (plain_log _).bind fun _ => (plain_call _).bind fun reply => ?_
    cases reply with
    | error e => exact (plain_log _).bind fun _ => plain_pure _
    | ok u => exact plain_pure _

theorem cancelAll_plain : Plain cancelAll := by
  refine (plain_call _).bind fun reply => ?_
  cases reply with
  | error e => exact (plain_log _).bind fun _ => plain_pure _
  | ok orders =>
    refine (plain_log _).bind fun _ => (cancelEach_plain orders).bind fun n => ?_
    dsimp only
    split
    · exact (plain_log _).bind fun _ => plain_pure _
    · exact (plain_log _).bind fun _ => plain_pure _

end Keeper

/-! ### Nothing is left at the paper venue -/

namespace Paper

variable {v w : Paper}

/-- A cancel call that goes through takes an order away. -/
theorem cancel_length {p : Pair} {id : OrderId} (through : (v.cancel p id).reply = .ok ()) :
    (v.cancel p id).venue.orders.length + 1 = v.orders.length := by
  rw [cancel] at through ⊢
  split at through
  next => cases through
  next i found =>
    obtain ⟨known, -⟩ := List.findIdx?_eq_some_iff_getElem.mp found
    exact List.length_eraseIdx_add_one known

/-- So do cancel calls that all go through, each one, whatever comes in between. -/
theorem Serves.canceled {calls : List Exchange} (serves : v.Serves calls w)
    (cancels : ∀ x ∈ calls, x.1.kind = .cancel) (through : ∀ x ∈ calls, hasFailed x = false) :
    w.orders.length + calls.length ≤ v.orders.length := by
  induction calls generalizing v with
  | nil => exact serves.sublist_nil.length_le
  | cons x calls ih =>
    obtain ⟨u, here, later⟩ := serves.split_cons
    obtain ⟨cancel, others⟩ := List.forall_mem_cons.mp cancels
    obtain ⟨goes, rest⟩ := List.forall_mem_cons.mp through
    have fewer := ih later others rest
    obtain ⟨c, r⟩ := x
    cases c with
    | cancel p id =>
      cases r with
      | error e => cases goes
      | ok done =>
        obtain ⟨m, before, ⟨⟨e, failed⟩, -⟩ | ⟨answered, answer, reply, after⟩⟩ := here.single
        · cases failed
        · rcases answer_cases answer with ⟨-, e, failed⟩ | serve
          · cases failed.symm.trans reply
          · obtain rfl := Except.ok.inj serve
            have gone := cancel_length reply
            have begun := before.length_le
            have ended := after.length_le
            rw [List.length_cons]
            omega
    | topOfBook | openOrders | balance | place | budgetAdjust => cases cancel

/-- The orders on a list are all canceled if the calls for it go through, so that none is left. -/
theorem Serves.emptied {t : Transcript} {n : Nat} (path : Path Keeper.cancelAll t n)
    (serves : v.Serves t.calls w) (through : ∀ x ∈ t.calls, hasFailed x = false) :
    w.orders = [] := by
  rcases Keeper.cancelAll_calls path with ⟨e, made, -⟩ | ⟨orders, cancels, made, each, -⟩
  · rw [made] at through
    cases through _ List.mem_cons_self
  · rw [made] at serves through
    obtain ⟨u, listing, later⟩ := serves.split_cons
    have listed := listing.openOrders.2.length_le
    have fewer := later.canceled (Keeper.cancels_kind each) (List.forall_mem_cons.mp through).2
    have all : cancels.length = orders.length := by
      rw [← List.length_map, each, List.length_map]
    exact List.eq_nil_of_length_eq_zero (by omega)

end Paper

namespace Loop

variable {k : Keeper} {t : Transcript} {l : Loop}

/-- What the end of a run does about resting orders. -/
def Cancels (k : Keeper) (canceling : Transcript) : Prop :=
  if k.settings.cancelAllOnShutdown then ∃ n, Path Keeper.cancelAll canceling n
  else canceling = []

/-- All it does about them is to list and to cancel. -/
theorem Cancels.plain {canceling : Transcript} (cancels : Cancels k canceling) :
    canceling.notices = [] ∧ canceling.stops = 0 ∧
      ∀ x ∈ canceling.calls, x.1.kind = .openOrders ∨ x.1.kind = .cancel := by
  rw [Cancels] at cancels
  split at cancels
  next =>
    obtain ⟨n, path⟩ := cancels
    exact ⟨Keeper.cancelAll_plain.notices path, Keeper.cancelAll_plain.unstopped path,
      Keeper.cancelAll_kinds path⟩
  next =>
    subst cancels
    exact ⟨rfl, rfl, List.forall_mem_nil _⟩

/-- The end of a run, with what it does about resting orders. -/
def ending (k : Keeper) (canceling : Transcript) : Transcript :=
  ⟨.log (.info "🛑 Coordinator shutting down"), ()⟩ :: ⟨.stopFeed, ()⟩ ::
    (canceling ++ [⟨.log (.info k.totals.line), ()⟩])

theorem shutdown_path (path : Path (shutdown k) t l) :
    l = .ended k.totals ∧ ∃ canceling, Cancels k canceling ∧ t = ending k canceling := by
  obtain ⟨first, rfl, goesOn⟩ := path_log_iff.mp path
  obtain ⟨second, rfl, cancels⟩ := path_stopFeed_iff.mp goesOn
  have logged : ∀ {t : Transcript}, Path (do log (.info k.totals.line); return ended k.totals) t l →
      t = [⟨.log (.info k.totals.line), ()⟩] ∧ l = .ended k.totals := by
    intro t path
    obtain ⟨rest, rfl, ends⟩ := path_log_iff.mp path
    obtain ⟨rfl, rfl⟩ := path_pure_iff.mp ends
    exact ⟨rfl, rfl⟩
  dsimp only at cancels
  split at cancels
  next sets =>
    obtain ⟨canceling, n, last, rfl, all, ends⟩ := path_bind_iff.mp cancels
    obtain ⟨rfl, rfl⟩ := logged ends
    exact ⟨rfl, canceling, by rw [Cancels, if_pos sets]; exact ⟨n, all⟩, rfl⟩
  next unset =>
    obtain ⟨rfl, rfl⟩ := logged cancels
    exact ⟨rfl, [], by rw [Cancels, if_neg unset], rfl⟩

/-- Once the loop has ended nothing is served. -/
theorem serveAll_ended {totals : Totals} {events : List Event}
    (path : Path ((ended totals).serveAll events) t l) : t = [] ∧ l = .ended totals := by
  induction events generalizing t with
  | nil => exact path_pure_iff.mp path
  | cons e events ih =>
    obtain ⟨first, m, rest, rfl, serves, goesOn⟩ := path_bind_iff.mp path
    obtain ⟨rfl, rfl⟩ := path_pure_iff.mp serves
    exact ih goesOn

end Loop

end QuoteKeeper
