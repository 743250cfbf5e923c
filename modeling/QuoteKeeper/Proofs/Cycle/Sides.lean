import QuoteKeeper.Proofs.Cycle.OneTurn
import QuoteKeeper.Proofs.Settings.Pairs

/-!
# Every pair and every side is counted once

A pair that is evaluated is put off as a whole, with one skip and nothing else, or each of its two
sides has one mark: an order that rests there, a skip, a balance that could not be read, or a
candidate. A cycle that proposes evaluates the pairs with a valid reference up to the first one that
has candidates, so that each of its pairs is stale, put off or evaluated. That counts each pair once
because settings that are read list none twice.
-/

namespace QuoteKeeper

open Dialogue

namespace SideOutcome

/-- How often one side is counted, apart from an order that rests there. -/
def marks (o : SideOutcome) : Nat :=
  o.skips.excluded + o.skips.distance + o.skips.balance + o.skips.invalidPrice + o.failures +
    o.candidates.length

/-- The skips that are about a pair as a whole, or about a pair that is not evaluated. -/
theorem skips_others (o : SideOutcome) : o.skips.count = 0 ∧ o.skips.time = 0 ∧
    o.skips.staleReference = 0 ∧ o.skips.bookUnavailable = 0 ∧ o.skips.noTargetSize = 0 := by
  cases o with
  | order | resting | excluded | tooFar | noFunds | noPrice | unread =>
    exact ⟨rfl, rfl, rfl, rfl, rfl⟩

end SideOutcome

namespace PairOutcome

/-- How often the two sides of a pair are counted, apart from the orders that rest there. -/
def marks (o : PairOutcome) : Nat :=
  o.skips.excluded + o.skips.distance + o.skips.balance + o.skips.invalidPrice + o.failures +
    o.candidates.length

theorem marks_sides (buy sell : SideOutcome) :
    (sides buy sell).marks = buy.marks + sell.marks := by
  have added : (sides buy sell).marks =
      (buy.skips.excluded + sell.skips.excluded) + (buy.skips.distance + sell.skips.distance) +
        (buy.skips.balance + sell.skips.balance) +
        (buy.skips.invalidPrice + sell.skips.invalidPrice) + (buy.failures + sell.failures) +
        (buy.candidates ++ sell.candidates).length := rfl
  rw [added, List.length_append, SideOutcome.marks, SideOutcome.marks]
  omega

theorem skips_stale (o : PairOutcome) : o.skips.staleReference = 0 := by
  cases o with
  | waiting | noBook | noBoundary | noSize => rfl
  | sides buy sell =>
    change buy.skips.staleReference + sell.skips.staleReference = 0
    rw [buy.skips_others.2.2.1, sell.skips_others.2.2.1]

theorem skipsOf_stale (outcomes : List PairOutcome) (later : SkipCounts) :
    (skipsOf outcomes later).staleReference = later.staleReference := by
  induction outcomes with
  | nil => rfl
  | cons o outcomes ih =>
    change o.skips.staleReference + (skipsOf outcomes later).staleReference = later.staleReference
    rw [skips_stale, ih, Nat.zero_add]

end PairOutcome

/-- How many sides of a pair have a resting order. -/
def OpenOrders.sidesTaken (orders : OpenOrders) (p : Pair) : Nat :=
  (orders.has p .buy).toNat + (orders.has p .sell).toNat

namespace Proposal

/-- How an evaluated pair is counted. -/
inductive Counted (p : Pair) (orders : OpenOrders) (cooldown : Cooldown) (now : Instant)
    (o : PairOutcome) (calls : List Exchange) : Prop
  /-- One skip and nothing else. -/
  | putOff
      (once : o.skips ∈ [({ time := 1 } : SkipCounts), { bookUnavailable := 1 },
        { invalidPrice := 1 }, { noTargetSize := 1 }])
      (read : o.failures = 0) (nothing : o.candidates = []) (silent : calls = [])
      (kept : stamp cooldown p now o = cooldown)
  /-- One mark for each side. -/
  | sides
      (each : orders.sidesTaken p + o.skips.excluded + o.skips.distance + o.skips.balance +
        o.skips.invalidPrice + o.failures + o.candidates.length = 2)
      (others : o.skips.count = 0 ∧ o.skips.time = 0 ∧ o.skips.staleReference = 0 ∧
        o.skips.bookUnavailable = 0 ∧ o.skips.noTargetSize = 0)

theorem BuySideCourse.marked {settings : Settings} {p : Pair} {orders : OpenOrders}
    {boundary bid target : Decimal} {o : SideOutcome} {calls : List Exchange}
    (course : BuySideCourse settings p orders boundary bid target o calls) :
    (orders.has p .buy).toNat + o.marks = 1 := by
  cases course with
  | resting taken =>
    rw [taken]
    rfl
  | excluded free paused =>
    rw [free]
    rfl
  | looked free bought course =>
    rw [free]
    cases course with
    | noPrice | tooFar | noAmount | unread | noFunds | order => rfl

theorem SellSideCourse.marked {settings : Settings} {p : Pair} {orders : OpenOrders}
    {boundary ask target : Decimal} {o : SideOutcome} {calls : List Exchange}
    (course : SellSideCourse settings p orders boundary ask target o calls) :
    (orders.has p .sell).toNat + o.marks = 1 := by
  cases course with
  | resting taken =>
    rw [taken]
    rfl
  | looked free course =>
    rw [free]
    cases course with
    | noPrice | tooFar | unread | noFunds | order => rfl

theorem Course.counted {settings : Settings} {p : Pair} {prices : PairPrices} {orders : OpenOrders}
    {cooldown : Cooldown} {now : Instant} {o : PairOutcome} {calls : List Exchange}
    (course : Course settings p prices orders cooldown now o calls) :
    Counted p orders cooldown now o calls := by
  cases course with
  | waiting | noBook | noBoundary | noSize => exact .putOff (by decide) rfl rfl rfl rfl
  | @sides _ _ _ _ buy sell _ _ _ _ _ _ _ bought sold =>
    refine .sides ?_ ?_
    · have both := PairOutcome.marks_sides buy sell
      have buys := bought.marked
      have sells := sold.marked
      rw [PairOutcome.marks] at both
      rw [OpenOrders.sidesTaken]
      omega
    · obtain ⟨count, time, stale, book, size⟩ := buy.skips_others
      obtain ⟨count', time', stale', book', size'⟩ := sell.skips_others
      have zero : ∀ {m n : Nat}, m = 0 → n = 0 → m + n = 0 := by
        intro m n left right
        rw [left, right]
      exact ⟨zero count count', zero time time', zero stale stale', zero book book',
        zero size size'⟩

end Proposal

namespace Progress

open Transcript PairOutcome

section Evaluating

variable (settings : Settings) (prices : Prices) (orders : OpenOrders) (now : Instant)

/-- The pairs that a pass evaluates, with what becomes of each: those with a valid reference, up to
the first one that has candidates. -/
def evaluate : List Pair → Cooldown → Dialogue (List (Pair × PairOutcome))
  | [], _ => return []
  | p :: rest, cooldown =>
    match prices.get? p with
    | none => evaluate rest cooldown
    | some pairPrices => do
      let o ← Proposal.outcome settings p pairPrices orders cooldown now
      if o.candidates.isEmpty then
        let later ← evaluate rest (Proposal.stamp cooldown p now o)
        return (p, o) :: later
      else
        return [(p, o)]

/-- How many pairs have a valid reference. -/
def priced (pairs : List Pair) : Nat := pairs.countP fun p => (prices.get? p).isSome

/-- What a pass has come to once the evaluated pairs are known, of `known` pairs with a valid
reference. -/
def passOf (known : Nat) (cooldown : Cooldown) (turns : List (Pair × PairOutcome)) : Pass where
  skips := skipsOf (turns.map (·.2)) { count := known - turns.length }
  failures := failuresOf (turns.map (·.2)) 0
  batch := turns.flatMap (·.2.candidates)
  cooldown := turns.foldl (fun c turn => Proposal.stamp c turn.1 now turn.2) cooldown

/-- A pass evaluates pairs and adds up what becomes of them. -/
theorem propose_eq (pairs : List Pair) (cooldown : Cooldown) :
    propose settings prices orders now pairs cooldown =
      passOf now (priced prices pairs) cooldown <$>
        evaluate settings prices orders now pairs cooldown := by
  induction pairs generalizing cooldown with
  | nil => rfl
  | cons p rest ih =>
    rw [propose, evaluate, priced, List.countP_cons]
    cases known : prices.get? p with
    | none => exact ih cooldown
    | some q =>
      dsimp only
      rw [map_bind]
      refine bind_congr fun o => ?_
      by_cases empty : o.candidates.isEmpty = true
      · have nothing := List.isEmpty_iff.mp empty
        simp only [empty, if_true]
        rw [ih, map_bind, map_eq_pure_bind, LawfulMonad.bind_assoc]
        refine bind_congr fun later => ?_
        rw [pure_bind, map_pure]
        simp [passOf, nothing, skipsOf, failuresOf, priced]
      · have nonempty : o.candidates ≠ [] := fun nothing => empty (List.isEmpty_iff.mpr nothing)
        simp only [empty, Proposal.stamp]
        simp [passOf, skipsOf, failuresOf, Proposal.stamp, nonempty]

variable {settings prices orders now}

/-- The evaluated pairs are the first of those with a valid reference. -/
theorem evaluate_pairs {pairs : List Pair} {cooldown : Cooldown} {t : Transcript}
    {turns : List (Pair × PairOutcome)}
    (path : Path (evaluate settings prices orders now pairs cooldown) t turns) :
    turns.map (·.1) <+: pairs.filter fun p => (prices.get? p).isSome := by
  induction pairs generalizing cooldown t turns with
  | nil =>
    obtain ⟨-, rfl⟩ := path_pure_iff.mp path
    exact List.nil_prefix
  | cons p rest ih =>
    rw [evaluate] at path
    split at path
    next missing =>
      rw [List.filter_cons_of_neg (by simp [missing])]
      exact ih path
    next q known =>
      rw [List.filter_cons_of_pos (by simp [known])]
      obtain ⟨first, o, last, -, -, goesOn⟩ := path_bind_iff.mp path
      by_cases empty : o.candidates.isEmpty = true
      · simp only [empty, if_true] at goesOn
        obtain ⟨second, later, others, -, evaluates, ends⟩ := path_bind_iff.mp goesOn
        obtain ⟨-, rfl⟩ := path_pure_iff.mp ends
        exact List.cons_prefix_cons.mpr ⟨rfl, ih evaluates⟩
      · simp only [empty] at goesOn
        obtain ⟨-, rfl⟩ := path_pure_iff.mp goesOn
        exact List.cons_prefix_cons.mpr ⟨rfl, List.nil_prefix⟩

theorem evaluate_length_le {pairs : List Pair} {cooldown : Cooldown} {calls : List Exchange}
    {turns : List (Pair × PairOutcome)}
    (goes : Goes (evaluate settings prices orders now pairs cooldown) calls turns) :
    turns.length ≤ priced prices pairs := by
  obtain ⟨t, path, -⟩ := goes
  have within := (evaluate_pairs path).length_le
  rwa [List.length_map, ← List.countP_eq_length_filter] at within

theorem PassCourse.evaluated {pairs : List Pair} {cooldown : Cooldown} {pass : Pass}
    {calls : List Exchange}
    (course : PassCourse settings prices orders now pairs cooldown pass calls) :
    ∃ turns, Goes (evaluate settings prices orders now pairs cooldown) calls turns ∧
      pass = passOf now (priced prices pairs) cooldown turns := by
  obtain ⟨t, path, made⟩ := course.goes
  rw [propose_eq] at path
  obtain ⟨turns, evaluates, passed⟩ := path_map_iff.mp path
  exact ⟨turns, ⟨t, evaluates, made⟩, passed⟩

end Evaluating

end Progress

/-! ### Pairs with one reference -/

/-- A pair that is asked for more than once has one reference price. -/
def OneReference (asked : List (Pair × Option BidAsk)) : Prop :=
  ∀ p q r, (p, q) ∈ asked → (p, r) ∈ asked → q = r

theorem oneReference_of_nodup {asked : List (Pair × Option BidAsk)}
    (distinct : (asked.map (·.1)).Nodup) : OneReference asked := by
  intro p q r first second
  exact (Prod.mk.inj (List.inj_on_of_nodup_map distinct first second rfl)).2

namespace Reading

theorem Courses.stale {asked : List (Pair × Option BidAsk)} {readings : List (Pair × Reading)}
    {calls : List Exchange} (courses : Courses asked readings calls) {p : Pair}
    (member : (p, none) ∈ readings) : ∃ r, (p, r) ∈ asked ∧ r.any BidAsk.isValid = false := by
  induction courses with
  | nil => exact nomatch member
  | cons head tail ih =>
    rcases List.mem_cons.mp member with same | later
    · obtain ⟨rfl, rfl⟩ := Prod.mk.inj same
      cases head with
      | stale invalid => exact ⟨_, List.mem_cons_self, invalid⟩
    · obtain ⟨r, told, invalid⟩ := ih later
      exact ⟨r, List.mem_cons_of_mem _ told, invalid⟩

/-- If no pair has two references, the prices of a pair are missing exactly if it was stale. -/
theorem Courses.get?_isSome {asked : List (Pair × Option BidAsk)}
    {readings : List (Pair × Reading)} {calls : List Exchange}
    (courses : Courses asked readings calls) (steady : OneReference asked) {p : Pair}
    {reading : Reading} (member : (p, reading) ∈ readings) :
    ((Prices.ofReadings readings).get? p).isSome = reading.isSome := by
  cases reading with
  | none =>
    cases found : (Prices.ofReadings readings).get? p with
    | none => rfl
    | some q =>
      -- The price came from another reading of the pair, whose reference was valid.
      obtain ⟨told, valid⟩ := courses.valid (Prices.mem_of_get? found)
      obtain ⟨r, told', invalid⟩ := courses.stale member
      rw [steady p r _ told' told, Option.any_some, valid] at invalid
      exact nomatch invalid
  | some v =>
    refine Option.isSome_iff_ne_none.mpr ?_
    rw [courses.priced p]
    obtain ⟨told, valid⟩ := courses.valid member
    exact ⟨v.reference, told, valid⟩

/-- Each pair is stale or has prices. -/
theorem Courses.stale_add_priced {asked : List (Pair × Option BidAsk)}
    {readings : List (Pair × Reading)} {calls : List Exchange}
    (courses : Courses asked readings calls) (steady : OneReference asked) :
    (Prices.ofReadings readings).stale.length +
      Progress.priced (Prices.ofReadings readings) (asked.map (·.1)) = asked.length := by
  have stale : (Prices.ofReadings readings).stale.length =
      readings.countP fun e => e.2.isNone := by
    rw [List.countP_eq_length_filter]
    exact List.length_map _
  have known : Progress.priced (Prices.ofReadings readings) (asked.map (·.1)) =
      readings.countP fun e => e.2.isSome := by
    rw [Progress.priced, ← courses.keys, List.countP_map]
    apply List.countP_congr
    intro e member
    rw [Function.comp_apply, courses.get?_isSome steady member]
  have all : asked.length = readings.length := by
    rw [← List.length_map (·.1), ← courses.keys, List.length_map]
  rw [stale, known, all, List.length_eq_countP_add_countP (fun e => e.2.isNone)]
  congr 1
  apply List.countP_congr
  intro e _
  cases e.2 with
  | none | some => simp

end Reading

namespace Progress

open Transcript PairOutcome

/-- Among what a cycle that proposes has skipped, the stale pairs and the pairs put off. -/
theorem skips_survey (settings : Settings) (prices : Prices) (orders : OpenOrders)
    (outcomes : List PairOutcome) (putOff : Nat) :
    (skipsBefore settings prices orders + skipsOf outcomes { count := putOff }).staleReference =
        prices.stale.length ∧
      (skipsBefore settings prices orders + skipsOf outcomes { count := putOff }).count =
        putOff := by
  constructor
  · change prices.stale.length + 0 + 0 + (skipsOf outcomes { count := putOff }).staleReference = _
    rw [skipsOf_stale]
    rfl
  · change 0 + (skipsOf outcomes { count := putOff }).count = _
    rw [skipsOf_count, Nat.zero_add]

/-- What a cycle that proposes says of its pairs: which were evaluated, and what was skipped. -/
structure Surveyed (settings : Settings) (prices : Prices) (orders : OpenOrders)
    (cooldown : Cooldown) (now : Instant) (t : Transcript) (s : CycleSummary)
    (turns : List (Pair × PairOutcome)) : Prop where
  /-- The evaluated pairs are those that a pass gets to with these balances. -/
  evaluated : Goes (evaluate settings prices orders now settings.pairs cooldown) t.balances turns
  skips : s.skips = skipsBefore settings prices orders +
    skipsOf (turns.map (·.2)) { count := priced prices settings.pairs - turns.length }

theorem Course.surveyed {settings : Settings} {cycle : Nat} {cooldown : Cooldown} {now : Instant}
    {t : Transcript} {s : Progress} (course : Course settings cycle cooldown now t s)
    (reached : s.summary.outcome = .completed) :
    ∃ orders readings reads turns, t.openOrders? = some orders ∧
      readings? settings.pairs t = some readings ∧
      t.references.map (·.1) = settings.pairs ∧ Reading.Courses t.references readings reads ∧
      Surveyed settings (Prices.ofReadings readings) ⟨settings.pairs, orders⟩ cooldown now t
        s.summary turns := by
  cases course with
  | starting | aborted => exact nomatch reached
  | @ran orders readings reads calls p s feed made order read shown phases announced =>
    cases phases with
    | unprofitable | outbid => exact nomatch reached
    | @proposed pass result balances acts nothing nothing' passed placed =>
      obtain ⟨turns, evaluated, rfl⟩ := passed.evaluated
      have asked := asked_balances made read.kind passed.onlyBalances placed
      refine ⟨orders, readings, reads, turns, openOrders?_eq made, shown, order, read, ?_, rfl⟩
      rw [asked]
      exact evaluated

/-- If no pair has two references, each pair is stale, put off or evaluated. -/
theorem Surveyed.complete {settings : Settings} {readings : List (Pair × Reading)}
    {orders : OpenOrders} {cooldown : Cooldown} {now : Instant} {t : Transcript} {s : CycleSummary}
    {reads : List Exchange} {turns : List (Pair × PairOutcome)}
    (surveyed : Surveyed settings (Prices.ofReadings readings) orders cooldown now t s turns)
    (order : t.references.map (·.1) = settings.pairs)
    (read : Reading.Courses t.references readings reads) (steady : OneReference t.references) :
    settings.pairs.length = s.skips.staleReference + s.skips.count + turns.length := by
  have all := read.stale_add_priced steady
  have within := evaluate_length_le surveyed.evaluated
  obtain ⟨stale, putOff⟩ := skips_survey settings (Prices.ofReadings readings) orders
    (turns.map (·.2)) (priced (Prices.ofReadings readings) settings.pairs - turns.length)
  have length : settings.pairs.length = t.references.length := by
    rw [← order, List.length_map]
  rw [order] at all
  rw [surveyed.skips, stale, putOff]
  omega

end Progress

namespace Keeper

/-- Settings that are read list no pair twice. An evaluated pair is put off with one skip, which
leaves everything alone, or each of its sides is counted once. In a cycle that proposes, each pair
is stale, put off or evaluated; only a pair that is listed twice and whose reference changes within
the cycle can be more than one of these. -/
theorem cycle_accounted :
    (∀ {lookup : String → Option String} {settings : Settings},
      Settings.ofLookup lookup = .ok settings → settings.pairs.Nodup) ∧
    (∀ {settings : Settings} {p : Pair} {prices : PairPrices} {orders : OpenOrders}
      {cooldown : Cooldown} {now : Instant} {t : Transcript} {o : PairOutcome},
      Path (Proposal.outcome settings p prices orders cooldown now) t o →
        Proposal.Counted p orders cooldown now o t.calls) ∧
    ∀ {k k' : Keeper} {now : Instant} {t : Transcript} {s : CycleSummary},
      Path (k.cycle now) t (s, k') → s.outcome = .completed →
        ∃ orders prices turns, t.openOrders? = some orders ∧
          (Progress.readings? k.settings.pairs t).map Prices.ofReadings = some prices ∧
          Progress.Surveyed k.settings prices ⟨k.settings.pairs, orders⟩ k.cooldown now t s
            turns ∧
          (k.settings.pairs.Nodup ∨ OneReference t.references →
            k.settings.pairs.length = s.skips.staleReference + s.skips.count + turns.length) := by
  refine ⟨Settings.ofLookup_nodup, ?_, ?_⟩
  · intro settings p prices orders cooldown now t o path
    exact (Proposal.outcome_course path).2.counted
  · intro k k' now t s path reached
    obtain ⟨progress, course, rfl, rfl⟩ := cycle_course path
    obtain ⟨orders, readings, reads, turns, found, shown, order, read, surveyed⟩ :=
      course.surveyed reached
    refine ⟨orders, Prices.ofReadings readings, turns, found, by rw [shown, Option.map_some],
      surveyed, ?_⟩
    rintro (distinct | steady)
    · exact surveyed.complete order read (oneReference_of_nodup (order ▸ distinct))
    · exact surveyed.complete order read steady

/-- What becomes of the second pair of the row. -/
def rowOutcome : Dialogue PairOutcome :=
  Proposal.outcome smallRow.settings ⟨"X", "BTC"⟩
    { reference := ⟨0.0010, 0.0011⟩, book := some ⟨0.00098, 0.00112⟩ }
    ⟨smallRow.settings.pairs, []⟩ smallRow.cooldown (Span.ofSeconds 5)

/-- Without variables the pairs are those by default, and none is listed twice. The second pair of
the row has a candidate on each side. Of the three pairs of its cycle none is stale and the last one
is put off, so two are evaluated. -/
theorem cycle_accounted_row :
    (Settings.ofLookup (fun _ => none) = .ok Settings.default ∧ Settings.default.pairs.Nodup) ∧
    (∃ (t : Transcript) (o : PairOutcome), Path rowOutcome t o ∧ o.candidates.length = 2 ∧
      Proposal.Counted ⟨"X", "BTC"⟩ ⟨smallRow.settings.pairs, []⟩ smallRow.cooldown
        (Span.ofSeconds 5) o t.calls) ∧
    ∃ s k' orders prices turns,
      Path (smallRow.cycle (Span.ofSeconds 5)) Rehearsal.rowTranscript (s, k') ∧
        s.outcome = .completed ∧ smallRow.settings.pairs.Nodup ∧ s.skips.count = 1 ∧
        Progress.Surveyed smallRow.settings prices ⟨smallRow.settings.pairs, orders⟩
          smallRow.cooldown (Span.ofSeconds 5) Rehearsal.rowTranscript s turns ∧
        smallRow.settings.pairs.length =
          s.skips.staleReference + s.skips.count + turns.length := by
  have ended : (rowOutcome.run Rehearsal.world Rehearsal.smallRow).1.toOption.any
      (fun o => decide (o.candidates.length = 2)) = true := by
    decide +kernel
  obtain ⟨t, o, path, both⟩ := path_of_run ended
  obtain ⟨s, k', path', reached, -, putOff⟩ := Rehearsal.rowTranscript_path
  have distinct : smallRow.settings.pairs.Nodup := by
    decide
  have unset : Settings.ofLookup (fun _ => none) = .ok Settings.default := rfl
  obtain ⟨listed, counted, cycles⟩ := cycle_accounted
  obtain ⟨orders, prices, turns, -, -, surveyed, complete⟩ := cycles path' reached
  exact ⟨⟨unset, listed unset⟩, ⟨t, o, path, of_decide_eq_true both, counted path⟩, s, k', orders,
    prices, turns, path', reached, distinct, putOff, surveyed, complete (Or.inl distinct)⟩

end Keeper

end QuoteKeeper
