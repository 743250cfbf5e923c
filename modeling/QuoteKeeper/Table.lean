/-!
# Finite maps

A list of entries with at most one entry per key when it is built by `set`. A new key goes to the
end; a known key keeps its place.
-/

namespace QuoteKeeper

structure Table (κ : Type) (α : Type) where
  entries : List (κ × α) := []
deriving DecidableEq

namespace Table

variable {κ α : Type} [DecidableEq κ]

instance : Inhabited (Table κ α) := ⟨{}⟩

def get? (t : Table κ α) (k : κ) : Option α := (t.entries.find? (·.1 = k)).map (·.2)

/-- The entries with the value of `k` replaced, or `k` added at the end. -/
def setIn (k : κ) (v : α) : List (κ × α) → List (κ × α)
  | [] => [(k, v)]
  | e :: rest => if e.1 = k then (k, v) :: rest else e :: setIn k v rest

def set (t : Table κ α) (k : κ) (v : α) : Table κ α := ⟨setIn k v t.entries⟩

def erase (t : Table κ α) (k : κ) : Table κ α := ⟨t.entries.filter (·.1 ≠ k)⟩

def size (t : Table κ α) : Nat := t.entries.length

/-- Later entries win. -/
def ofList (entries : List (κ × α)) : Table κ α :=
  entries.foldl (fun t e => t.set e.1 e.2) {}

/-- The entries in the order of their keys. -/
def sortedBy (le : κ → κ → Bool) (t : Table κ α) : List (κ × α) :=
  t.entries.mergeSort fun a b => le a.1 b.1

theorem find?_setIn (k : κ) (v : α) (es : List (κ × α)) (j : κ) :
    ((setIn k v es).find? (·.1 = j)).map (·.2)
      = if k = j then some v else (es.find? (·.1 = j)).map (·.2) := by
  induction es with
  | nil => by_cases h : k = j <;> simp [setIn, h]
  | cons e rest ih =>
    unfold setIn
    by_cases hk : e.1 = k
    · by_cases h : k = j <;> simp_all
    · by_cases h : e.1 = j
      · subst h
        simp [hk, Ne.symm hk]
      · simp only [hk, if_false, List.find?_cons, h, decide_false]
        exact ih

theorem get?_set (t : Table κ α) (k : κ) (v : α) (j : κ) :
    (t.set k v).get? j = if k = j then some v else t.get? j :=
  find?_setIn k v t.entries j

theorem get?_foldl_set_of_notMem (es : List (κ × α)) (t : Table κ α) (k : κ)
    (absent : k ∉ es.map (·.1)) : (es.foldl (fun t e => t.set e.1 e.2) t).get? k = t.get? k := by
  induction es generalizing t with
  | nil => rfl
  | cons e es ih =>
    rw [List.map_cons, List.mem_cons, not_or] at absent
    rw [List.foldl_cons, ih _ absent.2, get?_set, if_neg (Ne.symm absent.1)]

theorem mem_or_of_get?_foldl_set (es : List (κ × α)) (t : Table κ α) {k : κ} {v : α}
    (found : (es.foldl (fun t e => t.set e.1 e.2) t).get? k = some v) :
    (k, v) ∈ es ∨ t.get? k = some v := by
  induction es generalizing t with
  | nil => exact Or.inr found
  | cons e es ih =>
    rcases ih (t.set e.1 e.2) found with later | here
    · exact Or.inl (List.mem_cons_of_mem e later)
    · rw [get?_set] at here
      by_cases same : e.1 = k
      · rw [if_pos same] at here
        have whole : e = (k, v) := by rw [← same, ← Option.some.inj here]
        exact Or.inl (whole ▸ List.mem_cons_self)
      · rw [if_neg same] at here
        exact Or.inr here

theorem mem_of_get?_ofList {es : List (κ × α)} {k : κ} {v : α}
    (found : (ofList es).get? k = some v) : (k, v) ∈ es := by
  rcases mem_or_of_get?_foldl_set es {} found with h | h
  · exact h
  · exact nomatch h

theorem get?_ofList_of_notMem {es : List (κ × α)} {k : κ} (absent : k ∉ es.map (·.1)) :
    (ofList es).get? k = none :=
  get?_foldl_set_of_notMem es {} k absent

theorem get?_foldl_set_eq_none_iff (es : List (κ × α)) (t : Table κ α) (k : κ) :
    (es.foldl (fun t e => t.set e.1 e.2) t).get? k = none ↔
      k ∉ es.map (·.1) ∧ t.get? k = none := by
  induction es generalizing t with
  | nil => simp
  | cons e es ih =>
    rw [List.foldl_cons, ih, get?_set, List.map_cons, List.mem_cons, not_or]
    by_cases same : e.1 = k
    · simp [same]
    · simp [same, Ne.symm same]

theorem get?_ofList_eq_none_iff {es : List (κ × α)} {k : κ} :
    (ofList es).get? k = none ↔ k ∉ es.map (·.1) := by
  rw [ofList, get?_foldl_set_eq_none_iff]
  exact and_iff_left rfl

theorem get?_ofList_of_mem {es : List (κ × α)} (distinct : (es.map (·.1)).Nodup) {k : κ} {v : α}
    (member : (k, v) ∈ es) : (ofList es).get? k = some v := by
  have known : ∀ t : Table κ α, (es.foldl (fun t e => t.set e.1 e.2) t).get? k = some v := by
    induction es with
    | nil => exact nomatch member
    | cons e es ih =>
      intro t
      rw [List.map_cons, List.nodup_cons] at distinct
      rcases List.mem_cons.mp member with rfl | later
      · rw [List.foldl_cons, get?_foldl_set_of_notMem es _ k distinct.1, get?_set, if_pos rfl]
      · exact ih distinct.2 later (t.set e.1 e.2)
  exact known {}

end Table

end QuoteKeeper
