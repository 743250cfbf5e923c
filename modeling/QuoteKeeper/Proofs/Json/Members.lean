import Mathlib.Data.List.Nodup
import Mathlib.Data.String.Basic
import QuoteKeeper.Proofs.Json.Grammar

/-!
# The members that are kept

Members put in one after the other stand in the order of their keys, each key once. Under a key
stands the value of its last member, and members with different keys may come in any order.
-/

namespace QuoteKeeper

namespace Json

variable {key k : String} {value v : Value} {kept ms ms' : List (String × Value)}

/-- The value of the last member with the key. -/
def last? (ms : List (String × Value)) (key : String) : Option Value := ms.reverse.lookup key

/-- Every key is before those that follow. -/
def InOrder (ms : List (String × Value)) : Prop := ms.Pairwise fun a b => a.1 < b.1

/-! ### One member -/

theorem mem_insertMember {m : String × Value} (mem : m ∈ insertMember key value ms) :
    m = (key, value) ∨ m ∈ ms := by
  induction ms with
  | nil => exact .inl (List.mem_singleton.mp mem)
  | cons a ms ih =>
    rw [insertMember] at mem
    split at mem
    next => exact List.mem_cons.mp mem
    next =>
      split at mem
      next => exact (List.mem_cons.mp mem).imp_right (List.mem_cons_of_mem a)
      next =>
        rcases List.mem_cons.mp mem with rfl | mem
        · exact .inr List.mem_cons_self
        · exact (ih mem).imp_right (List.mem_cons_of_mem a)

theorem insertMember_inOrder (sorted : InOrder ms) (key : String) (value : Value) :
    InOrder (insertMember key value ms) := by
  induction ms with
  | nil => exact List.pairwise_singleton _ _
  | cons a ms ih =>
    obtain ⟨before, rest⟩ := List.pairwise_cons.mp sorted
    rw [insertMember]
    split
    next less =>
      refine List.pairwise_cons.mpr ⟨fun m mem => ?_, sorted⟩
      rcases List.mem_cons.mp mem with rfl | mem
      · exact less
      · exact less.trans (before m mem)
    next notLess =>
      split
      next same =>
        rw [same]
        exact List.pairwise_cons.mpr ⟨before, rest⟩
      next different =>
        refine List.pairwise_cons.mpr ⟨fun m mem => ?_, ih rest⟩
        rcases mem_insertMember mem with rfl | mem
        · exact lt_of_le_of_ne (not_lt.mp notLess) (Ne.symm different)
        · exact before m mem

theorem lookup_cons (m : String × Value) (ms : List (String × Value)) (k : String) :
    (m :: ms).lookup k = if k = m.1 then some m.2 else ms.lookup k := by
  rw [List.lookup_cons]
  by_cases same : k = m.1
  · rw [same, beq_self_eq_true, if_pos rfl]
  · rw [beq_eq_false_iff_ne.mpr same, if_neg same]

theorem lookup_insertMember (key : String) (value : Value) (ms : List (String × Value))
    (k : String) :
    (insertMember key value ms).lookup k = if k = key then some value else ms.lookup k := by
  induction ms with
  | nil => rw [insertMember, lookup_cons]
  | cons a ms ih =>
    rw [insertMember]
    split
    next => rw [lookup_cons]
    next =>
      split
      next same =>
        rw [lookup_cons, lookup_cons, ← same]
        split <;> rfl
      next different =>
        rw [lookup_cons, lookup_cons, ih]
        split
        next here => rw [if_neg (here ▸ Ne.symm different)]
        next => rfl

theorem insertMember_before (less : key < k) (value v : Value) (ms : List (String × Value)) :
    insertMember key value ((k, v) :: ms) = (key, value) :: (k, v) :: ms := if_pos less

theorem insertMember_same (key : String) (value v : Value) (ms : List (String × Value)) :
    insertMember key value ((key, v) :: ms) = (key, value) :: ms := by
  rw [insertMember, if_neg (lt_irrefl key), if_pos rfl]

theorem insertMember_after (greater : k < key) (value v : Value) (ms : List (String × Value)) :
    insertMember key value ((k, v) :: ms) = (k, v) :: insertMember key value ms := by
  rw [insertMember, if_neg greater.not_gt, if_neg greater.ne']

/-- Members with different keys may be put in either way round. -/
theorem insertMember_comm {key' : String} (different : key ≠ key') (value value' : Value)
    (ms : List (String × Value)) :
    insertMember key value (insertMember key' value' ms) =
      insertMember key' value' (insertMember key value ms) := by
  wlog less : key < key' generalizing key key' value value'
  · have greater := lt_of_le_of_ne (not_lt.mp less) (Ne.symm different)
    exact (this (Ne.symm different) value' value greater).symm
  induction ms with
  | nil =>
    rw [insertMember, insertMember, insertMember_before less, insertMember_after less, insertMember]
  | cons a ms ih =>
    obtain ⟨k, v⟩ := a
    rcases lt_trichotomy key k with before | rfl | after
    · rw [insertMember_before before, insertMember_after less]
      rcases lt_trichotomy key' k with before' | rfl | after'
      · rw [insertMember_before before', insertMember_before less]
      · rw [insertMember_same, insertMember_before less]
      · rw [insertMember_after after', insertMember_before before]
    · rw [insertMember_same, insertMember_after less, insertMember_same, insertMember_after less]
    · have after' := after.trans less
      rw [insertMember_after after, insertMember_after after', insertMember_after after, ih,
        insertMember_after after']

/-! ### All members -/

theorem collect_inOrder (sorted : InOrder kept) (ms : List (String × Value)) :
    InOrder (collect kept ms) := by
  induction ms generalizing kept with
  | nil => exact sorted
  | cons m ms ih => exact ih (insertMember_inOrder sorted m.1 m.2)

theorem lookup_collect (kept ms : List (String × Value)) (k : String) :
    (collect kept ms).lookup k = (last? ms k).or (kept.lookup k) := by
  induction ms generalizing kept with
  | nil => rfl
  | cons m ms ih =>
    rw [collect_cons, ih, lookup_insertMember, last?, last?, List.reverse_cons,
      List.lookup_append, lookup_cons, List.lookup_nil, Option.or_assoc]
    split <;> rfl

/-- In order, a member is what is found under its key. -/
theorem mem_iff_lookup (sorted : InOrder ms) (k : String) (v : Value) :
    (k, v) ∈ ms ↔ ms.lookup k = some v := by
  induction ms with
  | nil => simp
  | cons m ms ih =>
    obtain ⟨before, rest⟩ := List.pairwise_cons.mp sorted
    rw [lookup_cons, List.mem_cons, ih rest]
    by_cases same : k = m.1
    · -- No later member has this key.
      have absent : ms.lookup k ≠ some v := fun found =>
        (before _ ((ih rest).mpr found)).ne' same
      rw [if_pos same, or_iff_left absent, same, Option.some.injEq]
      exact ⟨fun whole => by rw [← whole], fun whole => by rw [← whole]⟩
    · rw [if_neg same, or_iff_right fun whole => same (congrArg Prod.fst whole)]

/-- What is kept: the last value of each key. -/
theorem mem_collect (ms : List (String × Value)) (k : String) (v : Value) :
    (k, v) ∈ collect [] ms ↔ last? ms k = some v := by
  rw [mem_iff_lookup (collect_inOrder List.Pairwise.nil ms), lookup_collect, List.lookup_nil,
    Option.or_none]

/-- The keys that have a last value are those that have one. -/
theorem last?_isSome (ms : List (String × Value)) (k : String) :
    (∃ v, last? ms k = some v) ↔ k ∈ ms.map Prod.fst := by
  rw [last?, ← List.mem_reverse, ← List.map_reverse]
  induction ms.reverse with
  | nil => simp
  | cons m ms ih =>
    rw [lookup_cons, List.map_cons, List.mem_cons, ← ih]
    by_cases same : k = m.1
    · simp [same]
    · simp [same]

/-- Members with different keys may come in any order. -/
theorem collect_perm (perm : ms.Perm ms') (distinct : (ms.map Prod.fst).Nodup)
    (kept : List (String × Value)) : collect kept ms = collect kept ms' := by
  refine perm.foldl_eq' (fun m mem m' mem' kept => ?_) kept
  by_cases same : m.1 = m'.1
  · rw [List.inj_on_of_nodup_map distinct mem mem' same]
  · exact insertMember_comm (Ne.symm same) m'.2 m.2 kept

/-! ### What is kept of the values -/

theorem normalMembers_eq_map (ms : List (String × Value)) :
    normalMembers ms = ms.map fun m => (m.1, m.2.normal) := by
  induction ms with
  | nil => rfl
  | cons m ms ih => rw [normalMembers, ih, List.map_cons]

theorem last?_normalMembers (ms : List (String × Value)) (k : String) :
    last? (normalMembers ms) k = (last? ms k).map Value.normal := by
  rw [last?, last?, normalMembers_eq_map, ← List.map_reverse]
  induction ms.reverse with
  | nil => rfl
  | cons m ms ih =>
    rw [List.map_cons, lookup_cons, lookup_cons, ih]
    split <;> rfl

/-- Leaving out keys leaves the other keys as they are. -/
theorem last?_filter (bad : String → Bool) (ms : List (String × Value)) (k : String) :
    last? (ms.filter fun m => !bad m.1) k = if bad k then none else last? ms k := by
  rw [last?, last?, ← List.filter_reverse]
  induction ms.reverse with
  | nil => simp
  | cons m ms ih =>
    rw [lookup_cons]
    by_cases same : k = m.1
    · rw [if_pos same, same]
      cases isBad : bad m.1 with
      | true =>
        rw [List.filter_cons_of_neg (by simp [isBad]), ← same, ih, same, isBad]
        rfl
      | false =>
        rw [List.filter_cons_of_pos (by simp [isBad]), lookup_cons, if_pos rfl]
        rfl
    · rw [if_neg same, ← ih]
      cases isBad : bad m.1 with
      | true => rw [List.filter_cons_of_neg (by simp [isBad])]
      | false => rw [List.filter_cons_of_pos (by simp [isBad]), lookup_cons, if_neg same]

theorem mem_keysOfMembers (k : String) (ms : List (String × Value)) :
    k ∈ keysOfMembers ms ↔ ∃ m ∈ ms, k = m.1 ∨ k ∈ m.2.keys := by
  induction ms with
  | nil => simp [keysOfMembers]
  | cons m ms ih => simp [keysOfMembers, ih, or_assoc]

end Json

end QuoteKeeper
