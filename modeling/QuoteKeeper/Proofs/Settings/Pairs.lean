import Mathlib.Data.List.Forall2
import Mathlib.Logic.Relation
import QuoteKeeper.Proofs.Text.Items
import QuoteKeeper.Settings.Reader

/-!
# Lists of pairs

An item of a list is a pair if it has one dash with a text on each side, and the pair is the item
with its letters raised. That is a normal form: what is displayed is read back as the same pair, and
nothing but the items themselves counts in a list, not the case of their letters, not the blanks
around them, not the empty items between them. A pair that is listed again keeps its first position.
-/

namespace QuoteKeeper

open Text

/-- A text with one dash, and the texts on each side of it. -/
structure OneDash (item base quote : String) : Prop where
  whole : base ++ "-" ++ quote = item
  plain : '-' ∉ base.toList ∧ '-' ∉ quote.toList
  nonempty : base ≠ "" ∧ quote ≠ ""

theorem oneDash_iff {item base quote : String} :
    OneDash item base quote ↔ split '-' item = [base, quote] ∧ base ≠ "" ∧ quote ≠ "" := by
  rw [split_eq_two_iff]
  constructor
  · exact fun dash => ⟨⟨dash.whole, dash.plain⟩, dash.nonempty⟩
  · rintro ⟨⟨whole, plain⟩, nonempty⟩
    exact ⟨whole, plain, nonempty⟩

namespace Pair

/-- The pair that an item is. -/
def Written (item : String) (p : Pair) : Prop :=
  ∃ base quote, OneDash item base quote ∧ p = ⟨upper base, upper quote⟩

theorem ofText?_eq_some_iff {s : String} {p : Pair} :
    ofText? s = some p ↔ Written (trim s) p := by
  constructor
  · intro read
    rw [ofText?] at read
    split at read
    next base quote cut =>
      split at read
      next nonempty =>
        cases read
        exact ⟨base, quote, oneDash_iff.mpr ⟨cut, nonempty⟩, rfl⟩
      next => cases read
    next => cases read
  · rintro ⟨base, quote, dash, rfl⟩
    obtain ⟨cut, nonempty⟩ := oneDash_iff.mp dash
    rw [ofText?, cut]
    exact if_pos nonempty

theorem read_eq_ok_iff {s : String} {p : Pair} : read s = .ok p ↔ Written (trim s) p := by
  rw [← ofText?_eq_some_iff, read]
  cases ofText? s with
  | none => simp
  | some q => simp

/-- A pair is displayed as its item with the letters raised. -/
theorem Written.text_eq {item : String} {p : Pair} (written : Written item p) :
    p.text = upper item := by
  obtain ⟨base, quote, dash, rfl⟩ := written
  have kept : upper "-" = "-" := String.toList_injective (toList_upper "-")
  rw [← dash.whole, upper_append, upper_append, kept, text]

theorem isMark_dash : IsMark '-' := by
  rw [IsMark]
  decide

/-- The case of letters makes no difference. -/
theorem written_upper_iff {item : String} {p : Pair} : Written (upper item) p ↔ Written item p := by
  simp only [Written, oneDash_iff, split_upper isMark_dash]
  constructor
  · rintro ⟨base', quote', ⟨raised, nonempty⟩, rfl⟩
    obtain ⟨base, after, cut, rfl, others⟩ := List.map_eq_cons_iff.mp raised
    obtain ⟨quote, more, rfl, rfl, none⟩ := List.map_eq_cons_iff.mp others
    rw [List.map_eq_nil_iff.mp none] at cut
    exact ⟨base, quote, ⟨cut, mt upper_eq_empty_iff.mpr nonempty.1,
      mt upper_eq_empty_iff.mpr nonempty.2⟩, by rw [upper_upper, upper_upper]⟩
  · rintro ⟨base, quote, ⟨cut, nonempty⟩, rfl⟩
    refine ⟨upper base, upper quote, ⟨?_, mt upper_eq_empty_iff.mp nonempty.1,
      mt upper_eq_empty_iff.mp nonempty.2⟩, by rw [upper_upper, upper_upper]⟩
    rw [cut]
    rfl

/-- What is displayed is read back as the same pair. -/
theorem read_text {s : String} {p : Pair} (accepted : read s = .ok p) : read p.text = .ok p := by
  have written := read_eq_ok_iff.mp accepted
  rw [read_eq_ok_iff, written.text_eq, trim_upper, trim_trim]
  exact written_upper_iff.mpr written

end Pair

/-! ### The items of a list -/

/-- Computations that can fail, one after the other, give a list if each of them gives its part. -/
theorem mapM_ok_iff {α β ε : Type} {f : α → Except ε β} {xs : List α} {ys : List β} :
    xs.mapM f = .ok ys ↔ List.Forall₂ (fun x y => f x = .ok y) xs ys := by
  induction xs generalizing ys with
  | nil =>
    rw [List.forall₂_nil_left_iff]
    exact ⟨fun made => (Except.ok.inj made).symm, fun none => by rw [none]; rfl⟩
  | cons x xs ih =>
    rw [List.mapM_cons, List.forall₂_cons_left_iff]
    simp only [← ih]
    cases f x with
    | error e => simp [Bind.bind, Except.bind]
    | ok y =>
      cases xs.mapM f with
      | error e => simp [Bind.bind, Except.bind]
      | ok rest => simp [Bind.bind, Except.bind, Pure.pure, Except.pure, eq_comm]

/-- The items of a list are read one by one. -/
theorem mapM_read_iff {s : String} {listed : List Pair} :
    (items s).mapM Pair.read = .ok listed ↔ List.Forall₂ Pair.Written (items s) listed := by
  have trimmed : (items s).map trim = items s := by
    have each : (items s).map trim = (items s).map id :=
      List.map_congr_left fun item mem => (of_mem_items mem).1
    rw [each, List.map_id]
  calc (items s).mapM Pair.read = .ok listed
      ↔ List.Forall₂ (fun item p => Pair.Written (trim item) p) (items s) listed := by
        simp only [mapM_ok_iff, Pair.read_eq_ok_iff]
    _ ↔ List.Forall₂ Pair.Written ((items s).map trim) listed := List.forall₂_map_left_iff.symm
    _ ↔ List.Forall₂ Pair.Written (items s) listed := by rw [trimmed]

theorem readPairs_eq_ok_iff {s : String} {pairs : List Pair} :
    readPairs s = .ok pairs ↔
      ∃ listed, List.Forall₂ Pair.Written (items s) listed ∧ distinctFrom [] listed = pairs := by
  simp only [← mapM_read_iff]
  rw [readPairs]
  cases (items s).mapM Pair.read with
  | error e => simp [Bind.bind, Except.bind]
  | ok listed => simp [Bind.bind, Except.bind, Pure.pure, Except.pure]

theorem exists_written_iff (items : List String) :
    (∃ listed, List.Forall₂ Pair.Written items listed) ↔
      ∀ item ∈ items, ∃ base quote, OneDash item base quote := by
  induction items with
  | nil => exact ⟨fun _ item mem => absurd mem List.not_mem_nil, fun _ => ⟨[], .nil⟩⟩
  | cons item items ih =>
    rw [List.forall_mem_cons, ← ih]
    constructor
    · rintro ⟨_, _ | ⟨⟨base, quote, dash, -⟩, others⟩⟩
      exact ⟨⟨base, quote, dash⟩, _, others⟩
    · rintro ⟨⟨base, quote, dash⟩, listed, others⟩
      exact ⟨_, .cons ⟨base, quote, dash, rfl⟩ others⟩

/-- A list cannot be read exactly if one of its items has not one dash with a text on each side. -/
theorem readPairs_fails_iff (s : String) :
    (∃ e, readPairs s = .error e) ↔
      ∃ item ∈ items s, ∀ base quote, ¬ OneDash item base quote := by
  have succeeds : (∃ pairs, readPairs s = .ok pairs) ↔
      ∀ item ∈ items s, ∃ base quote, OneDash item base quote := by
    rw [← exists_written_iff]
    constructor
    · rintro ⟨pairs, read⟩
      obtain ⟨listed, written, -⟩ := readPairs_eq_ok_iff.mp read
      exact ⟨listed, written⟩
    · rintro ⟨listed, written⟩
      exact ⟨_, readPairs_eq_ok_iff.mpr ⟨listed, written, rfl⟩⟩
  have fails : (∃ e, readPairs s = .error e) ↔ ¬ ∃ pairs, readPairs s = .ok pairs := by
    cases readPairs s with
    | error e => simp
    | ok pairs => simp
  rw [fails, succeeds]
  simp only [not_forall, not_exists, exists_prop]

/-! ### First positions -/

/-- A list without repetitions of what occurs in another one, in the order of first occurrence. -/
structure FirstOccurrences (listed pairs : List Pair) : Prop where
  distinct : pairs.Nodup
  same : ∀ p, p ∈ pairs ↔ p ∈ listed
  ordered : pairs.Pairwise fun p q => listed.idxOf p < listed.idxOf q

theorem mem_distinctFrom {seen listed : List Pair} {p : Pair} :
    p ∈ distinctFrom seen listed ↔ p ∈ listed ∧ p ∉ seen := by
  induction listed generalizing seen with
  | nil => simp [distinctFrom]
  | cons q listed ih =>
    rw [distinctFrom]
    split
    next old =>
      rw [ih, List.mem_cons]
      constructor
      · rintro ⟨mem, fresh⟩
        exact ⟨.inr mem, fresh⟩
      · rintro ⟨rfl | mem, fresh⟩
        · exact absurd (List.contains_iff_mem.mp old) fresh
        · exact ⟨mem, fresh⟩
    next new =>
      have unseen : q ∉ seen := fun mem => new (List.contains_iff_mem.mpr mem)
      rw [List.mem_cons, ih, List.mem_cons, List.mem_cons]
      constructor
      · rintro (rfl | ⟨mem, fresh⟩)
        · exact ⟨.inl rfl, unseen⟩
        · exact ⟨.inr mem, fun old => fresh (.inr old)⟩
      · rintro ⟨rfl | mem, fresh⟩
        · exact .inl rfl
        · by_cases same : p = q
          · exact .inl same
          · exact .inr ⟨mem, fun old => old.elim same fresh⟩

theorem distinctFrom_nodup (seen listed : List Pair) : (distinctFrom seen listed).Nodup := by
  induction listed generalizing seen with
  | nil => exact List.nodup_nil
  | cons p listed ih =>
    rw [distinctFrom]
    split
    next => exact ih seen
    next =>
      refine List.nodup_cons.mpr ⟨fun mem => ?_, ih (p :: seen)⟩
      exact (mem_distinctFrom.mp mem).2 List.mem_cons_self

theorem distinctFrom_ordered (seen listed : List Pair) :
    (distinctFrom seen listed).Pairwise fun p q => listed.idxOf p < listed.idxOf q := by
  induction listed generalizing seen with
  | nil => exact .nil
  | cons q listed ih =>
    have later {p : Pair} (other : p ≠ q) : (q :: listed).idxOf p = listed.idxOf p + 1 :=
      List.idxOf_cons_ne listed (Ne.symm other)
    -- Whatever comes from the rest and is not q comes after q, in the order of the rest.
    have shifted {pairs : List Pair} (others : ∀ p ∈ pairs, p ≠ q)
        (ordered : pairs.Pairwise fun p q => listed.idxOf p < listed.idxOf q) :
        pairs.Pairwise fun p r => (q :: listed).idxOf p < (q :: listed).idxOf r := by
      refine ordered.imp_of_mem fun mem mem' before => ?_
      rw [later (others _ mem), later (others _ mem')]
      exact Nat.succ_lt_succ before
    rw [distinctFrom]
    split
    next old =>
      refine shifted (fun p mem same => ?_) (ih seen)
      exact (mem_distinctFrom.mp mem).2 (same ▸ List.contains_iff_mem.mp old)
    next new =>
      have others : ∀ p ∈ distinctFrom (q :: seen) listed, p ≠ q := by
        intro p mem same
        exact (mem_distinctFrom.mp mem).2 (List.mem_cons.mpr (.inl same))
      refine List.pairwise_cons.mpr ⟨fun p mem => ?_, shifted others (ih (q :: seen))⟩
      rw [List.idxOf_cons_self, later (others p mem)]
      exact Nat.succ_pos _

theorem distinctFrom_firstOccurrences (listed : List Pair) :
    FirstOccurrences listed (distinctFrom [] listed) where
  distinct := distinctFrom_nodup [] listed
  same p := by rw [mem_distinctFrom, and_iff_left List.not_mem_nil]
  ordered := distinctFrom_ordered [] listed

/-- Nothing is left out of a list without repetitions. -/
theorem distinctFrom_eq_self {seen listed : List Pair} (distinct : listed.Nodup)
    (fresh : ∀ p ∈ listed, p ∉ seen) : distinctFrom seen listed = listed := by
  induction listed generalizing seen with
  | nil => rfl
  | cons p listed ih =>
    obtain ⟨alone, distinct⟩ := List.nodup_cons.mp distinct
    have new : ¬ seen.contains p = true :=
      fun old => fresh p List.mem_cons_self (List.contains_iff_mem.mp old)
    rw [distinctFrom, if_neg new, ih distinct]
    intro q mem
    rw [List.mem_cons]
    rintro (rfl | old)
    · exact alone mem
    · exact fresh q (List.mem_cons_of_mem p mem) old

theorem readPairs_nodup {s : String} {pairs : List Pair} (read : readPairs s = .ok pairs) :
    pairs.Nodup := by
  obtain ⟨listed, -, rfl⟩ := readPairs_eq_ok_iff.mp read
  exact distinctFrom_nodup [] listed

/-- Settings that are read list no pair twice. -/
theorem Settings.ofLookup_nodup {lookup : String → Option String} {settings : Settings}
    (read : Settings.ofLookup lookup = .ok settings) : settings.pairs.Nodup := by
  simp only [Settings.ofLookup, Bind.bind, Except.bind] at read
  split at read
  next => cases read
  next pairs listed =>
    have distinct : pairs.Nodup := by
      cases given : lookup "MM_TRADING_PAIRS" with
      | none =>
        rw [given] at listed
        cases listed
        decide
      | some s =>
        rw [given] at listed
        exact readPairs_nodup listed
    split at read
    next => cases read
    next =>
      split at read
      next => cases read
      next =>
        cases read
        exact distinct

/-! ### The normal form -/

theorem Pair.exists_item {items : List String} {listed : List Pair}
    (written : List.Forall₂ Written items listed) {p : Pair} (mem : p ∈ listed) :
    ∃ item ∈ items, Written item p := by
  induction written with
  | nil => exact nomatch mem
  | cons first others ih =>
    rcases List.mem_cons.mp mem with rfl | later
    · exact ⟨_, List.mem_cons_self, first⟩
    · obtain ⟨item, mem, written⟩ := ih later
      exact ⟨item, List.mem_cons_of_mem _ mem, written⟩

/-- The list as it is displayed is read back. -/
theorem readPairs_text {s : String} {pairs : List Pair} (read : readPairs s = .ok pairs) :
    readPairs (",".intercalate (pairs.map Pair.text)) = .ok pairs := by
  have distinct := readPairs_nodup read
  obtain ⟨listed, written, rfl⟩ := readPairs_eq_ok_iff.mp read
  have origin : ∀ p ∈ distinctFrom [] listed, ∃ item ∈ items s, Pair.Written item p :=
    fun p mem => Pair.exists_item written (mem_distinctFrom.mp mem).1
  rw [readPairs_eq_ok_iff, items_join]
  · refine ⟨_, ?_, distinctFrom_eq_self distinct fun p _ => List.not_mem_nil⟩
    rw [List.forall₂_map_left_iff, List.forall₂_same]
    intro p mem
    obtain ⟨item, listedAs, written⟩ := origin p mem
    rw [written.text_eq]
    exact Pair.written_upper_iff.mpr written
  · intro x mem
    obtain ⟨p, kept, rfl⟩ := List.mem_map.mp mem
    obtain ⟨item, listedAs, written⟩ := origin p kept
    obtain ⟨trimmed, whole, nonempty⟩ := of_mem_items listedAs
    rw [written.text_eq]
    exact ⟨by rw [trim_upper, trimmed], mt (mem_upper_iff isMark_comma).mp whole,
      mt upper_eq_empty_iff.mp nonempty⟩

/-- Spelling makes no difference to what is read or to whether it can be read. -/
theorem readPairs_respelled {s s' : String} (changes : Relation.ReflTransGen Respelled s s')
    (pairs : List Pair) : readPairs s' = .ok pairs ↔ readPairs s = .ok pairs := by
  have same : (items s').map upper = (items s).map upper := by
    induction changes with
    | refl => rfl
    | tail _ change ih => rw [change.items_upper_eq, ih]
  have raised (s : String) (listed : List Pair) :
      List.Forall₂ Pair.Written (items s) listed ↔
        List.Forall₂ Pair.Written ((items s).map upper) listed := by
    rw [List.forall₂_map_left_iff]
    simp only [Pair.written_upper_iff]
  simp only [readPairs_eq_ok_iff, raised, same]

/-- What every text is as a list of pairs. The pieces between the commas, trimmed and without the
empty ones, are the items. -/
theorem readPairs_normal (s : String) :
    ∃ pieces : List String, pieces ≠ [] ∧ (∀ x ∈ pieces, ',' ∉ x.toList) ∧
      ",".intercalate pieces = s ∧
      ((∃ e, readPairs s = .error e) ↔
        ∃ x ∈ pieces, trim x ≠ "" ∧ ∀ base quote, ¬ OneDash (trim x) base quote) ∧
      (∀ pairs, readPairs s = .ok pairs →
        (∃ listed, List.Forall₂ Pair.Written ((pieces.map trim).filter (· ≠ "")) listed ∧
          FirstOccurrences listed pairs) ∧
        readPairs (",".intercalate (pairs.map Pair.text)) = .ok pairs) ∧
      (∀ s', Relation.ReflTransGen Respelled s s' →
        ∀ pairs, readPairs s' = .ok pairs ↔ readPairs s = .ok pairs) ∧
      ∀ p, Pair.read s = .ok p → Pair.read p.text = .ok p := by
  refine ⟨split ',' s, split_ne_nil ',' s, fun x mem => not_mem_of_mem_split mem,
    intercalate_split ',' s, ?_, fun pairs read => ⟨?_, readPairs_text read⟩,
    fun s' changes => readPairs_respelled changes, fun p => Pair.read_text⟩
  · rw [readPairs_fails_iff]
    constructor
    · rintro ⟨item, mem, broken⟩
      obtain ⟨trimmed, nonempty⟩ := List.mem_filter.mp mem
      obtain ⟨x, cut, rfl⟩ := List.mem_map.mp trimmed
      exact ⟨x, cut, of_decide_eq_true nonempty, broken⟩
    · rintro ⟨x, cut, nonempty, broken⟩
      exact ⟨trim x, List.mem_filter.mpr ⟨List.mem_map_of_mem cut, decide_eq_true nonempty⟩, broken⟩
  · obtain ⟨listed, written, rfl⟩ := readPairs_eq_ok_iff.mp read
    exact ⟨listed, written, distinctFrom_firstOccurrences listed⟩

/-- A pair that is listed twice in two cases, and the list as it is displayed. -/
theorem readPairs_normal_small :
    readPairs "x-btc, y-eth ,X-BTC" = .ok [⟨"X", "BTC"⟩, ⟨"Y", "ETH"⟩] ∧
      readPairs "X-BTC,Y-ETH" = .ok [⟨"X", "BTC"⟩, ⟨"Y", "ETH"⟩] := by
  have listed : (items "x-btc, y-eth ,X-BTC").mapM Pair.read =
      .ok [⟨"X", "BTC"⟩, ⟨"Y", "ETH"⟩, ⟨"X", "BTC"⟩] := by
    decide +kernel
  have read : readPairs "x-btc, y-eth ,X-BTC" = .ok [⟨"X", "BTC"⟩, ⟨"Y", "ETH"⟩] := by
    rw [readPairs, listed]
    rfl
  have displayed :
      ",".intercalate ([⟨"X", "BTC"⟩, ⟨"Y", "ETH"⟩].map Pair.text) = "X-BTC,Y-ETH" := by
    decide +kernel
  obtain ⟨pieces, -, -, -, -, reads, -⟩ := readPairs_normal "x-btc, y-eth ,X-BTC"
  exact ⟨read, displayed ▸ (reads _ read).2⟩

end QuoteKeeper
