import Mathlib.Data.List.DropRight
import Mathlib.Data.String.Basic
import QuoteKeeper.Text.Blank

/-!
# Items and their spelling

A text is cut at its separators into pieces that have none, and only these pieces joined again are
the text. Trimming finds the part between blanks, and once is enough. Raising letters neither makes
nor takes away a blank or a separator, so that it can be done before cutting and trimming or after.
-/

namespace QuoteKeeper

namespace Text

/-! ### Letters -/

/-- Only the small letters from a to z are raised, by 32 each. -/
theorem toUpper_cases (c : Char) :
    c.toUpper = c ∧ ¬(97 ≤ c.toNat ∧ c.toNat ≤ 122) ∨
      97 ≤ c.toNat ∧ c.toNat ≤ 122 ∧ c.toUpper.toNat + 32 = c.toNat := by
  delta Char.toUpper
  split
  next small =>
    have range : 97 ≤ c.toNat ∧ c.toNat ≤ 122 := small
    refine .inr ⟨range.1, range.2, ?_⟩
    -- The difference of the two letters is negative and stands for its complement.
    change (c.val + ('A'.val - 'a'.val)).toNat + 32 = c.toNat
    rw [UInt32.toNat_add]
    change (c.toNat + 4294967264) % 4294967296 + 32 = c.toNat
    omega
  next other => exact .inl ⟨rfl, other⟩

theorem toUpper_toUpper (c : Char) : c.toUpper.toUpper = c.toUpper := by
  rcases toUpper_cases c with ⟨same, -⟩ | ⟨low, high, raised⟩
  · rw [same, same]
  · rcases toUpper_cases c.toUpper with ⟨same, -⟩ | ⟨low', high', -⟩
    · exact same
    · omega

/-- No letter is blank. -/
theorem isBlank_letter {c : Char}
    (letter : 65 ≤ c.toNat ∧ c.toNat ≤ 90 ∨ 97 ≤ c.toNat ∧ c.toNat ≤ 122) :
    isBlank c = false := by
  rw [isBlank, List.any_eq_false]
  intro r listed
  rw [Bool.and_eq_true, decide_eq_true_eq, decide_eq_true_eq]
  simp only [blankRanges, List.mem_cons, List.not_mem_nil, or_false] at listed
  rcases listed with rfl | rfl | rfl | rfl | rfl | rfl | rfl | rfl | rfl | rfl <;> omega

theorem isBlank_toUpper (c : Char) : isBlank c.toUpper = isBlank c := by
  rcases toUpper_cases c with ⟨same, -⟩ | ⟨low, high, raised⟩
  · rw [same]
  · rw [isBlank_letter (.inr ⟨low, high⟩), isBlank_letter (.inl (by omega))]

/-- A character that is no letter is neither raised nor the result of it. -/
def IsMark (sep : Char) : Prop :=
  ¬(65 ≤ sep.toNat ∧ sep.toNat ≤ 90 ∨ 97 ≤ sep.toNat ∧ sep.toNat ≤ 122)

theorem toUpper_eq_iff {sep : Char} (mark : IsMark sep) (c : Char) : c.toUpper = sep ↔ c = sep := by
  rcases toUpper_cases c with ⟨same, -⟩ | ⟨low, high, raised⟩
  · rw [same]
  · constructor
    · rintro rfl
      exact absurd (.inl (by omega)) mark
    · rintro rfl
      exact absurd (.inr ⟨low, high⟩) mark

/-! ### Pieces -/

theorem splitChars_eq (sep : Char) (cs : List Char) : splitChars sep cs = cs.splitOn sep := by
  induction cs with
  | nil => rfl
  | cons c cs ih =>
    rw [splitChars, List.splitOn_cons_eq_if_modifyHead, ih]
    cases pieces : cs.splitOn sep with
    | nil => exact absurd pieces (List.splitOn_ne_nil sep cs)
    | cons piece pieces => simp

/-- Pieces have no separator. -/
theorem not_mem_of_mem_splitChars {sep : Char} {cs piece : List Char}
    (mem : piece ∈ splitChars sep cs) : sep ∉ piece := by
  induction cs generalizing piece with
  | nil =>
    rw [splitChars, List.mem_singleton] at mem
    rw [mem]
    exact List.not_mem_nil
  | cons c cs ih =>
    rw [splitChars] at mem
    split at mem
    next =>
      rcases List.mem_cons.mp mem with rfl | later
      · exact List.not_mem_nil
      · exact ih later
    next other =>
      split at mem
      next =>
        rw [List.mem_singleton.mp mem, List.mem_singleton]
        exact fun same => other same.symm
      next first rest cut =>
        rw [cut] at ih
        rcases List.mem_cons.mp mem with rfl | later
        · rintro (_ | ⟨_, inside⟩)
          · exact other rfl
          · exact ih List.mem_cons_self inside
        · exact ih (List.mem_cons_of_mem _ later)

theorem split_append (sep : Char) (s t : String) :
    split sep (s ++ String.singleton sep ++ t) = split sep s ++ split sep t := by
  simp only [split, splitChars_eq, String.toList_append, String.toList_singleton, List.append_assoc,
    List.singleton_append, List.splitOn_append_cons_self, List.map_append]

/-- A text without a separator is one piece. -/
theorem split_of_not_mem {sep : Char} {s : String} (whole : sep ∉ s.toList) :
    split sep s = [s] := by
  rw [split, splitChars_eq, List.splitOn_eq_singleton whole, List.map_singleton,
    String.ofList_toList]

theorem not_mem_of_mem_split {sep : Char} {s piece : String} (mem : piece ∈ split sep s) :
    sep ∉ piece.toList := by
  obtain ⟨cs, cut, rfl⟩ := List.mem_map.mp mem
  rw [String.toList_ofList]
  exact not_mem_of_mem_splitChars cut

theorem split_ne_nil (sep : Char) (s : String) : split sep s ≠ [] := by
  rw [split, splitChars_eq]
  exact fun none => List.splitOn_ne_nil sep s.toList (List.map_eq_nil_iff.mp none)

/-- The pieces joined again are the text. -/
theorem intercalate_split (sep : Char) (s : String) :
    (String.singleton sep).intercalate (split sep s) = s := by
  apply String.toList_injective
  rw [String.toList_intercalate, String.toList_singleton, split, splitChars_eq, List.map_map]
  have each : (String.toList ∘ String.ofList) = id := funext fun _ => String.toList_ofList
  rw [each, List.map_id, List.intercalate_splitOn]

/-- Two pieces are a text on each side of one separator. -/
theorem split_eq_two_iff {sep : Char} {s left right : String} :
    split sep s = [left, right] ↔
      left ++ String.singleton sep ++ right = s ∧ sep ∉ left.toList ∧ sep ∉ right.toList := by
  constructor
  · intro cut
    have joined := intercalate_split sep s
    rw [cut, String.intercalate_cons_cons, String.intercalate_singleton] at joined
    have mem : left ∈ split sep s ∧ right ∈ split sep s := by
      rw [cut]
      exact ⟨List.mem_cons_self, List.mem_cons_of_mem _ List.mem_cons_self⟩
    exact ⟨joined, not_mem_of_mem_split mem.1, not_mem_of_mem_split mem.2⟩
  · rintro ⟨rfl, plain, plain'⟩
    rw [split_append, split_of_not_mem plain, split_of_not_mem plain']
    rfl

/-! ### Trimming -/

/-- A text of blanks only. -/
def Blank (s : String) : Prop := ∀ c ∈ s.toList, isBlank c = true

theorem dropEndWhile_append {p : Char → Bool} (cs : List Char) {right : List Char}
    (dropped : ∀ c ∈ right, p c = true) : dropEndWhile p (cs ++ right) = dropEndWhile p cs := by
  rw [dropEndWhile, List.reverse_append, List.dropWhile_append_of_pos, dropEndWhile]
  exact fun c mem => dropped c (List.mem_reverse.mp mem)

theorem trimChars_padded {left right : List Char} (cs : List Char)
    (before : ∀ c ∈ left, isBlank c = true) (after : ∀ c ∈ right, isBlank c = true) :
    trimChars (left ++ cs ++ right) = trimChars cs := by
  rw [trimChars, List.append_assoc, List.dropWhile_append_of_pos before, List.dropWhile_append,
    trimChars]
  split
  next blank =>
    rw [List.isEmpty_iff.mp blank, List.dropWhile_eq_nil_iff.mpr after]
  next => exact dropEndWhile_append _ after

/-- What trimming takes away is blank. -/
theorem exists_padded (cs : List Char) :
    ∃ left right, (∀ c ∈ left, isBlank c = true) ∧ (∀ c ∈ right, isBlank c = true) ∧
      left ++ trimChars cs ++ right = cs := by
  refine ⟨cs.takeWhile isBlank, ((cs.dropWhile isBlank).reverse.takeWhile isBlank).reverse,
    fun c mem => List.mem_takeWhile_imp mem,
    fun c mem => List.mem_takeWhile_imp (List.mem_reverse.mp mem), ?_⟩
  rw [trimChars, dropEndWhile, List.append_assoc, ← List.reverse_append,
    List.takeWhile_append_dropWhile, List.reverse_reverse, List.takeWhile_append_dropWhile]

theorem trimChars_trimChars (cs : List Char) : trimChars (trimChars cs) = trimChars cs := by
  obtain ⟨left, right, before, after, whole⟩ := exists_padded cs
  calc trimChars (trimChars cs) = trimChars (left ++ trimChars cs ++ right) :=
        (trimChars_padded _ before after).symm
    _ = trimChars cs := by rw [whole]

theorem trimChars_map_toUpper (cs : List Char) :
    trimChars (cs.map Char.toUpper) = (trimChars cs).map Char.toUpper := by
  have same : isBlank ∘ Char.toUpper = isBlank := funext isBlank_toUpper
  rw [trimChars, dropEndWhile, List.dropWhile_map, same, ← List.map_reverse, List.dropWhile_map,
    same, ← List.map_reverse, trimChars, dropEndWhile]

theorem trim_padded {left right : String} (s : String) (before : Blank left) (after : Blank right) :
    trim (left ++ s ++ right) = trim s := by
  rw [trim, String.toList_append, String.toList_append, trimChars_padded _ before after, trim]

theorem trim_trim (s : String) : trim (trim s) = trim s := by
  rw [trim, trim, String.toList_ofList, trimChars_trimChars]

theorem mem_of_mem_trim {s : String} {c : Char} (mem : c ∈ (trim s).toList) : c ∈ s.toList := by
  obtain ⟨left, right, -, -, whole⟩ := exists_padded s.toList
  rw [trim, String.toList_ofList] at mem
  rw [← whole]
  exact List.mem_append_left _ (List.mem_append_right _ mem)

/-! ### Raising -/

theorem toList_upper (s : String) : (upper s).toList = s.toList.map Char.toUpper :=
  String.toList_map

theorem upper_ofList (cs : List Char) :
    upper (String.ofList cs) = String.ofList (cs.map Char.toUpper) := by
  apply String.toList_injective
  rw [toList_upper, String.toList_ofList, String.toList_ofList]

theorem upper_append (s t : String) : upper (s ++ t) = upper s ++ upper t := by
  apply String.toList_injective
  rw [String.toList_append, toList_upper, toList_upper, toList_upper, String.toList_append,
    List.map_append]

theorem upper_upper (s : String) : upper (upper s) = upper s := by
  apply String.toList_injective
  rw [toList_upper, toList_upper, List.map_map]
  exact List.map_congr_left fun c _ => toUpper_toUpper c

theorem upper_eq_empty_iff {s : String} : upper s = "" ↔ s = "" := by
  rw [← String.toList_eq_nil_iff, toList_upper, List.map_eq_nil_iff, String.toList_eq_nil_iff]

theorem mem_upper_iff {sep : Char} (mark : IsMark sep) {s : String} :
    sep ∈ (upper s).toList ↔ sep ∈ s.toList := by
  rw [toList_upper, List.mem_map]
  constructor
  · rintro ⟨c, mem, raised⟩
    rwa [← (toUpper_eq_iff mark c).mp raised]
  · exact fun mem => ⟨sep, mem, (toUpper_eq_iff mark sep).mpr rfl⟩

theorem trim_upper (s : String) : trim (upper s) = upper (trim s) := by
  rw [trim, toList_upper, trimChars_map_toUpper, trim, upper_ofList]

/-- Raising letters and cutting at a mark can be done in either order. -/
theorem splitChars_map_toUpper {sep : Char} (mark : IsMark sep) (cs : List Char) :
    splitChars sep (cs.map Char.toUpper) = (splitChars sep cs).map (·.map Char.toUpper) := by
  induction cs with
  | nil => rfl
  | cons c cs ih =>
    rw [List.map_cons, splitChars, splitChars, ih]
    by_cases cut : c = sep
    · rw [if_pos cut, if_pos ((toUpper_eq_iff mark c).mpr cut)]
      rfl
    · rw [if_neg cut, if_neg (mt (toUpper_eq_iff mark c).mp cut)]
      cases splitChars sep cs with
      | nil | cons => rfl

theorem split_upper {sep : Char} (mark : IsMark sep) (s : String) :
    split sep (upper s) = (split sep s).map upper := by
  rw [split, toList_upper, splitChars_map_toUpper mark, split, List.map_map, List.map_map]
  exact List.map_congr_left fun cs _ => (upper_ofList cs).symm

/-! ### Items -/

theorem isMark_comma : IsMark ',' := by
  rw [IsMark]
  decide

theorem items_append (s t : String) : items (s ++ "," ++ t) = items s ++ items t := by
  have cut : split ',' (s ++ "," ++ t) = split ',' s ++ split ',' t := split_append ',' s t
  rw [items, cut, List.map_append, List.filter_append, items, items]

/-- The items of texts with commas between them. -/
theorem items_intercalate (xs : List String) : items (",".intercalate xs) = xs.flatMap items := by
  induction xs with
  | nil => rfl
  | cons x xs ih =>
    cases xs with
    | nil => rw [String.intercalate_singleton, List.flatMap_singleton]
    | cons y ys =>
      rw [String.intercalate_cons_of_ne_nil (List.cons_ne_nil y ys), items_append, ih]
      rfl

/-- A text without a comma is one item or, if it is blank, none. -/
theorem items_of_not_mem {s : String} (whole : ',' ∉ s.toList) :
    items s = [trim s].filter (· ≠ "") := by
  rw [items, split_of_not_mem whole, List.map_singleton]

theorem items_upper (s : String) : items (upper s) = (items s).map upper := by
  have raised : (split ',' (upper s)).map trim = ((split ',' s).map trim).map upper := by
    rw [split_upper isMark_comma, List.map_map, List.map_map]
    exact List.map_congr_left fun x _ => trim_upper x
  rw [items, raised, List.filter_map, items]
  congr 1
  apply List.filter_congr
  intro x _
  exact decide_eq_decide.mpr (not_congr upper_eq_empty_iff)

/-- Items are trimmed, have no comma and are not empty. -/
theorem of_mem_items {s item : String} (mem : item ∈ items s) :
    trim item = item ∧ ',' ∉ item.toList ∧ item ≠ "" := by
  obtain ⟨trimmed, nonempty⟩ := List.mem_filter.mp mem
  obtain ⟨piece, cut, rfl⟩ := List.mem_map.mp trimmed
  exact ⟨trim_trim piece, fun inside => not_mem_of_mem_split cut (mem_of_mem_trim inside),
    of_decide_eq_true nonempty⟩

/-- Items joined with commas are the items of the joined text. -/
theorem items_join {xs : List String}
    (each : ∀ x ∈ xs, trim x = x ∧ ',' ∉ x.toList ∧ x ≠ "") :
    items (",".intercalate xs) = xs := by
  rw [items_intercalate]
  induction xs with
  | nil => rfl
  | cons x xs ih =>
    obtain ⟨trimmed, whole, nonempty⟩ := each x List.mem_cons_self
    have one : items x = [x] := by
      rw [items_of_not_mem whole, trimmed]
      exact List.filter_cons_of_pos (decide_eq_true nonempty)
    rw [List.flatMap_cons, one, ih fun y mem => each y (List.mem_cons_of_mem x mem)]
    rfl

/-! ### Spellings -/

/-- One change to the spelling of a list: the case of ASCII letters, one more empty item, or blanks
around an item. -/
inductive Respelled : String → String → Prop
  | recased {s s' : String} (same : upper s' = upper s) : Respelled s s'
  | added (before after : List String) :
    Respelled (",".intercalate (before ++ after)) (",".intercalate (before ++ "" :: after))
  | padded (before after : List String) {item left right : String} (whole : ',' ∉ item.toList)
      (blank : Blank left) (blank' : Blank right) :
    Respelled (",".intercalate (before ++ item :: after))
      (",".intercalate (before ++ (left ++ item ++ right) :: after))

theorem Blank.not_mem_comma {s : String} (blank : Blank s) : ',' ∉ s.toList := by
  intro mem
  exact absurd (blank ',' mem) (by decide)

/-- The spelling of a list makes no difference to its items but for the case of letters. -/
theorem Respelled.items_upper_eq {s s' : String} (change : Respelled s s') :
    (items s').map upper = (items s).map upper := by
  cases change with
  | recased same => rw [← items_upper, same, items_upper]
  | added before after =>
    rw [items_intercalate, items_intercalate, List.flatMap_append, List.flatMap_append,
      List.flatMap_cons]
    rfl
  | @padded before after item left right whole blank blank' =>
    have one : items (left ++ item ++ right) = items item := by
      have whole' : ',' ∉ (left ++ item ++ right).toList := by
        rw [String.toList_append, String.toList_append, List.mem_append, List.mem_append]
        rintro ((inLeft | inside) | inRight)
        · exact blank.not_mem_comma inLeft
        · exact whole inside
        · exact blank'.not_mem_comma inRight
      rw [items_of_not_mem whole', trim_padded item blank blank', items_of_not_mem whole]
    rw [items_intercalate, items_intercalate, List.flatMap_append, List.flatMap_append,
      List.flatMap_cons, List.flatMap_cons, one]

end Text

end QuoteKeeper
