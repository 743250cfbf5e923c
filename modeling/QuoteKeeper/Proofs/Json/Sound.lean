import QuoteKeeper.Proofs.Json.Complete

/-!
# What is read is JSON

A text that the machine reads through starts with what the grammar asks for, and the rest of it is
read from there. The induction is on how much of the text is left: a value ends before the text
does, so its items and members are found by what is known of shorter texts. What is made of a part
is what is kept of it, unless the reserved key occurs; then an object with one member can stand for
a number.
-/

namespace QuoteKeeper

namespace Json

variable {stack : List Frame} {old : Option Value} {mode : Mode} {v r : Value}
variable {n k : Nat} {cs tail : List Char} {c : Char}

/-- The text starts with a part and its end, and once `kept` is made of the part the rest is read
to `r`. -/
def Found {α : Type} (stack : List Frame) (old : Option Value) (n : Nat) (cs : List Char)
    (r : Value) (part : α → Part) (close : List Char) (kept : α → Value) : Prop :=
  ∃ a x w tail, cs = a ++ (close ++ tail) ∧ Spells n a (part x) ∧
    (reservedKey ∉ (part x).keys → w = kept x) ∧ resume stack old w tail = some r

/-! ### After a value -/

theorem run_value_space (done : (Machine.mk stack old mode).run cs = some r) (idle : mode.idle) :
    ∃ pre tail, cs = pre ++ tail ∧ Blank pre ∧ (∀ c ∈ tail.head?, ¬ isSpace c) ∧
      (Machine.mk stack old mode).run tail = some r := by
  obtain ⟨pre, tail, rfl, blank, solid⟩ := blank_split cs
  exact ⟨pre, tail, rfl, blank, solid, (run_blank idle blank tail).symm.trans done⟩

/-- After a value and the space that follows it. -/
theorem resume_space (done : resume stack old v cs = some r) :
    ∃ post tail, cs = post ++ tail ∧ Blank post ∧ (∀ c ∈ tail.head?, ¬ isSpace c) ∧
      resume stack old v tail = some r := by
  obtain ⟨post, tail, rfl, blank, solid⟩ := blank_split cs
  exact ⟨post, tail, rfl, blank, solid, (resume_blank blank tail).symm.trans done⟩

theorem resume_array_some {items : List Value}
    (done : resume (.array items :: stack) old v cs = some r) :
    ∃ post tail, Blank post ∧
      ((cs = post ++ ',' :: tail ∧
          (Machine.mk (.array (v :: items) :: stack) old .nextItem).run tail = some r) ∨
        (cs = post ++ ']' :: tail ∧
          resume stack old (.array (v :: items).reverse) tail = some r)) := by
  obtain ⟨post, tail, rfl, blank, solid, ended⟩ := resume_space done
  cases tail with
  | nil => cases ended
  | cons c tail =>
    refine ⟨post, tail, blank, ?_⟩
    by_cases comma : c = ','
    · rw [comma, resume_item] at ended
      exact .inl ⟨by rw [comma], ended⟩
    · by_cases close : c = ']'
      · rw [close, resume_array] at ended
        exact .inr ⟨by rw [close], ended⟩
      · simp only [resume, settled, Machine.complete, Except.toOption, Option.bind_some,
          Machine.run_cons, Machine.feed, Machine.afterValue, if_neg (solid c rfl), if_neg comma,
          if_neg close] at ended
        cases ended

theorem resume_object_some {kept : List (String × Value)} {key : String}
    (done : resume (.object kept key :: stack) old v cs = some r) :
    ∃ post tail, Blank post ∧
      ((cs = post ++ ',' :: tail ∧
          (Machine.mk (.object (insertMember key v kept) "" :: stack) old .nextKey).run tail =
            some r) ∨
        (cs = post ++ '\x7d' :: tail ∧
          resume stack old (.object (insertMember key v kept)) tail = some r)) := by
  obtain ⟨post, tail, rfl, blank, solid, ended⟩ := resume_space done
  cases tail with
  | nil => cases ended
  | cons c tail =>
    refine ⟨post, tail, blank, ?_⟩
    by_cases comma : c = ','
    · rw [comma, resume_member] at ended
      exact .inl ⟨by rw [comma], ended⟩
    · by_cases close : c = '\x7d'
      · rw [close, resume_object] at ended
        exact .inr ⟨by rw [close], ended⟩
      · simp only [resume, settled, Machine.complete, Except.toOption, Option.bind_some,
          Machine.run_cons, Machine.feed, Machine.afterValue, if_neg (solid c rfl), if_neg comma,
          if_neg close] at ended
        cases ended

/-- An object that stands for a number has one member. -/
theorem resume_spelled_some {number : String}
    (done : resume (.spelled number :: stack) old v cs = some r) :
    ∃ post tail w, Blank post ∧ cs = post ++ '\x7d' :: tail ∧ resume stack old w tail = some r := by
  obtain ⟨post, tail, rfl, blank, solid, ended⟩ := resume_space done
  cases settling : settled (.spelled number :: stack) old v with
  | none =>
    rw [resume, settling] at ended
    cases ended
  | some m =>
    obtain ⟨text, rfl⟩ : ∃ text, m = Machine.mk (.spelled text :: stack) old .after := by
      cases v with
      | string s =>
        simp only [settled, Machine.complete] at settling
        cases read : readNumber s with
        | ok text =>
          rw [read] at settling
          cases settling
          exact ⟨text, rfl⟩
        | error fault =>
          rw [read] at settling
          cases settling
      | _ => cases settling
    rw [resume, settling, Option.bind_some] at ended
    cases tail with
    | nil => cases ended
    | cons c tail =>
      by_cases close : c = '\x7d'
      · rw [close] at ended ⊢
        refine ⟨post, tail, .number text, blank, rfl, ?_⟩
        exact (run_complete (Machine.mk stack old .after) (.number text) 1 tail).symm.trans ended
      · simp only [Machine.run_cons, Machine.feed, Machine.afterValue, if_neg (solid c rfl),
          if_neg close] at ended
        split at ended <;> cases ended

/-- Nothing but space follows the value of a text. -/
theorem resume_nil_some (done : resume [] old v cs = some r) : Blank cs ∧ r = v := by
  obtain ⟨post, tail, rfl, blank, solid, ended⟩ := resume_space done
  cases tail with
  | nil =>
    cases ended
    rw [List.append_nil]
    exact ⟨blank, rfl⟩
  | cons c tail =>
    simp only [resume, settled, Machine.complete, Except.toOption, Option.bind_some,
      Machine.run_cons, Machine.feed, Machine.afterValue, if_neg (solid c rfl)] at ended
    cases ended

/-! ### Values -/

theorem run_literal_some (rest : List Char) (more : rest ≠ [])
    (done : (Machine.mk stack old (.literal rest v)).run cs = some r) :
    ∃ tail, cs = rest ++ tail ∧ resume stack old v tail = some r := by
  induction rest generalizing cs with
  | nil => exact absurd rfl more
  | cons d rest ih =>
    cases cs with
    | nil => cases done
    | cons c cs =>
      by_cases same : c = d
      · rw [same] at done ⊢
        cases rest with
        | nil =>
          exact ⟨cs, rfl, (run_literal [d] more).symm.trans done⟩
        | cons e rest =>
          simp only [Machine.run_cons, Machine.feed, ne_eq, not_true, if_false,
            List.isEmpty_cons] at done
          obtain ⟨tail, rfl, resumed⟩ := ih (List.cons_ne_nil e rest) done
          exact ⟨tail, rfl, resumed⟩
      · simp only [Machine.run_cons, Machine.feed, ne_eq, same, not_false_eq_true, if_true] at done
        cases done

/-- Texts shorter than `k` that are read through from before a value start with one. -/
def Starts (k : Nat) : Prop :=
  ∀ cs stack old n r, cs.length < k → stack.length + n = depthLimit →
    (Machine.mk stack old .value).run cs = some r →
    Found stack old n cs r .spaced [] Value.normal

/-- Where an item or a value must come next, a value comes next. -/
theorem run_nextItem_some (done : (Machine.mk stack old .nextItem).run cs = some r) :
    (Machine.mk stack old .value).run cs = some r := by
  obtain ⟨pre, tail, rfl, blank, solid, done⟩ := run_value_space done rfl
  rw [run_blank rfl blank]
  cases tail with
  | nil => cases done
  | cons c tail =>
    by_cases close : c = ']'
    · rw [close] at done
      cases done
    · rwa [run_awaits rfl (Bool.not_eq_true _ ▸ solid c rfl) close] at done

/-- A part may be followed by more space. -/
theorem Spells.pad {a post : List Char} (spells : Spells n a (.spaced v)) (blank : Blank post) :
    Spells n (a ++ post) (.spaced v) := by
  cases spells with
  | @spaced _ pre cs after _ before value behind =>
    have both : Blank (after ++ post) := fun c mem =>
      (List.mem_append.mp mem).elim (behind c) (blank c)
    have padded := Spells.spaced before value both
    simpa using padded

/-- The items of an array, up to its end. -/
theorem items_found (starts : Starts k) (items : List Value) (left : cs.length < k)
    (room : stack.length + 1 + n = depthLimit)
    (done : (Machine.mk (.array items :: stack) old .value).run cs = some r) :
    Found stack old n cs r .items [']'] fun vs => .array (items.reverse ++ normalItems vs) := by
  -- An item is of any length, so the induction is on how much of the text is left.
  induction size : cs.length using Nat.strongRecOn generalizing cs items with
  | ind m ih =>
  obtain ⟨a, v, w, tail, rfl, spells, same, resumed⟩ :=
    starts cs (.array items :: stack) old n r left room done
  obtain ⟨post, tail, blank, ⟨rfl, ended⟩ | ⟨rfl, ended⟩⟩ := resume_array_some resumed
  · have shorter : tail.length < m := by
      rw [← size]
      simp
      omega
    obtain ⟨more, vs, w', tail, rfl, others, rest, resumed⟩ :=
      ih tail.length shorter (w :: items) (by omega) (run_nextItem_some ended) rfl
    refine ⟨a ++ post ++ ',' :: more, v :: vs, w', tail, by simp,
      .nextItem (spells.pad blank) others, fun free => ?_, resumed⟩
    simp only [Part.keys, keysOfItems, List.mem_append, not_or] at free
    rw [rest free.2, same free.1]
    simp [normalItems]
  · refine ⟨a ++ post, [v], _, tail, by simp, .lastItem (spells.pad blank), fun free => ?_, ended⟩
    simp only [Part.keys, keysOfItems, List.append_nil] at free
    rw [same free, List.reverse_cons]
    rfl

/-- What is read through after a key has a colon and a value. -/
theorem run_colon_some (done : (Machine.mk stack old .colon).run cs = some r) :
    ∃ mid tail, cs = mid ++ ':' :: tail ∧ Blank mid ∧
      (Machine.mk stack old .value).run tail = some r := by
  obtain ⟨mid, tail, rfl, blank, solid, done⟩ := run_value_space done rfl
  cases tail with
  | nil => cases done
  | cons c tail =>
    simp only [Machine.run_cons, Machine.feed, if_neg (solid c rfl)] at done
    split at done
    next colon =>
      rw [colon]
      exact ⟨mid, tail, rfl, blank, done⟩
    next => cases done

/-- Where a key must come next, a key comes next, a colon, and a value. -/
theorem run_nextKey_some {kept : List (String × Value)} {last : String}
    (done : (Machine.mk (.object kept last :: stack) old .nextKey).run cs = some r) :
    ∃ pre key s mid tail, cs = pre ++ '"' :: (key ++ '"' :: (mid ++ ':' :: tail)) ∧ Blank pre ∧
      Chars key s ∧ Blank mid ∧
        (Machine.mk (keyFrame kept (String.ofList s) :: stack) old .value).run tail = some r := by
  obtain ⟨pre, tail, rfl, before, solid, done⟩ := run_value_space done rfl
  cases tail with
  | nil => cases done
  | cons c tail =>
    by_cases quote : c = '"'
    · rw [quote] at done ⊢
      change (Machine.mk (.object kept last :: stack) old (.string true [])).run tail = some r at done
      obtain ⟨key, s, tail, rfl, chars, ended⟩ := run_string_some done
      rw [run_endKey, List.append_nil, List.reverse_reverse] at ended
      obtain ⟨mid, tail, rfl, blank, done⟩ := run_colon_some ended
      exact ⟨pre, key, s, mid, tail, rfl, before, chars, blank, done⟩
    · simp only [Machine.run_cons, Machine.feed, if_neg (solid c rfl), if_neg quote] at done
      split at done <;> cases done

/-- The members of an object, up to its end. -/
theorem members_found (starts : Starts k) (kept : List (String × Value)) {last : String}
    (left : cs.length < k) (room : stack.length + 1 + n = depthLimit)
    (done : (Machine.mk (.object kept last :: stack) old .nextKey).run cs = some r) :
    Found stack old n cs r .members ['\x7d']
      fun ms => .object (collect kept (normalMembers ms)) := by
  induction size : cs.length using Nat.strongRecOn generalizing cs kept last with
  | ind m ih =>
  obtain ⟨pre, key, s, mid, rest, rfl, before, chars, between, valued⟩ := run_nextKey_some done
  have shorter : rest.length < m ∧ rest.length < k := by
    simp only [List.length_cons, List.length_append] at size left
    omega
  rw [keyFrame] at valued
  split at valued
  next reserved =>
    -- The object stands for a number: it closes after this member, whose key is the reserved one.
    have spelled : String.ofList s = reservedKey := by
      rw [Bool.and_eq_true, beq_iff_eq] at reserved
      exact reserved.2
    obtain ⟨a, v, w, tail, rfl, spells, same, resumed⟩ :=
      starts rest (.spelled "" :: stack) old n r shorter.2 room valued
    obtain ⟨post, tail, x, blank, rfl, ended⟩ := resume_spelled_some resumed
    have member := Spells.member before chars between (spells.pad blank)
    refine ⟨_, [(String.ofList s, v)], x, tail, by simp, .lastMember member,
      fun free => absurd (List.mem_append_left _ ?_) free, ended⟩
    rw [spelled]
    exact List.mem_cons_self
  next =>
    obtain ⟨a, v, w, tail, rfl, spells, same, resumed⟩ :=
      starts rest (.object kept (String.ofList s) :: stack) old n r shorter.2 room valued
    obtain ⟨post, tail, blank, ⟨rfl, ended⟩ | ⟨rfl, ended⟩⟩ := resume_object_some resumed
    · have member := Spells.member before chars between (spells.pad blank)
      have less : tail.length < m ∧ tail.length < k := by
        simp only [List.length_cons, List.length_append] at shorter
        omega
      obtain ⟨more, ms, x, tail, rfl, others, kept', resumed⟩ :=
        ih tail.length less.1 _ less.2 ended rfl
      refine ⟨_, (String.ofList s, v) :: ms, x, tail, by simp, .nextMember member others,
        fun free => ?_, resumed⟩
      simp only [Part.keys, keysOfMembers, List.cons_append, List.mem_cons, List.mem_append,
        not_or] at free
      rw [kept' free.2.2, same free.2.1]
      rfl
    · have member := Spells.member before chars between (spells.pad blank)
      refine ⟨_, [(String.ofList s, v)], _, tail, by simp, .lastMember member,
        fun free => ?_, ended⟩
      simp only [Part.keys, keysOfMembers, List.append_nil, List.mem_cons, not_or] at free
      rw [same free.2]
      rfl

/-- An array or an object that is opened has room to be. -/
theorem run_opened_some {frame : Frame} {empty : Value} {next : Mode}
    (opens : (Machine.mk stack old .value).startValue c =
      (Machine.mk stack old .value).push frame empty next)
    (room : stack.length + n = depthLimit)
    (done : (Machine.mk stack old .value).run (c :: cs) = some r) :
    ∃ n', n = n' + 1 ∧ stack.length + 1 + n' = depthLimit ∧
      (Machine.mk (frame :: stack) old next).run cs = some r := by
  have fed : (Machine.mk stack old .value).feed c =
      (Machine.mk stack old .value).push frame empty next := opens
  rw [Machine.run_cons, fed] at done
  by_cases number : ∃ text rest, stack = .spelled text :: rest
  · obtain ⟨text, rest, rfl⟩ := number
    cases done
  · have other : ∀ text rest, stack ≠ .spelled text :: rest :=
      fun text rest same => number ⟨text, rest, same⟩
    by_cases less : stack.length < depthLimit
    · rw [push_ok less other] at done
      obtain ⟨n', rfl⟩ := Nat.exists_eq_add_one_of_ne_zero (n := n) (by omega)
      exact ⟨n', rfl, by omega, done⟩
    · rw [push_full less] at done
      cases done

theorem array_found (starts : Starts k) (left : cs.length < k)
    (room : stack.length + 1 + n = depthLimit)
    (done : (Machine.mk (.array [] :: stack) old .firstItem).run cs = some r) :
    Found stack old (n + 1) ('[' :: cs) r .value [] Value.normal := by
  obtain ⟨pre, tail, rfl, blank, solid, started⟩ := run_value_space done rfl
  cases tail with
  | nil => cases started
  | cons c tail =>
    by_cases close : c = ']'
    · rw [close] at started ⊢
      refine ⟨'[' :: (pre ++ [']']), .array [], .array [], tail, by simp, .emptyArray blank,
        fun _ => rfl, ?_⟩
      exact (run_complete (Machine.mk stack old .firstItem) (.array []) 1 tail).symm.trans started
    · rw [run_awaits rfl (Bool.not_eq_true _ ▸ solid c rfl) close,
        ← run_blank rfl blank] at started
      obtain ⟨a, vs, w, tail, written, spells, same, resumed⟩ :=
        items_found starts [] left room started
      rw [written]
      exact ⟨'[' :: (a ++ [']']), .array vs, w, tail, by simp, .array spells, same, resumed⟩

theorem object_found (starts : Starts k) (left : cs.length < k)
    (room : stack.length + 1 + n = depthLimit)
    (done : (Machine.mk (.object [] "" :: stack) old .firstKey).run cs = some r) :
    Found stack old (n + 1) ('\x7b' :: cs) r .value [] Value.normal := by
  obtain ⟨pre, tail, rfl, blank, solid, started⟩ := run_value_space done rfl
  cases tail with
  | nil => cases started
  | cons c tail =>
    by_cases close : c = '\x7d'
    · rw [close] at started ⊢
      refine ⟨'\x7b' :: (pre ++ ['\x7d']), .object [], .object [], tail, by simp,
        .emptyObject blank, fun _ => rfl, ?_⟩
      exact (run_complete (Machine.mk stack old .firstKey) (.object []) 1 tail).symm.trans started
    · have again : (Machine.mk (.object [] "" :: stack) old .firstKey).feed c =
          (Machine.mk (.object [] "" :: stack) old .nextKey).feed c := by
        simp only [Machine.feed, if_neg (solid c rfl), if_neg close]
      rw [Machine.run_cons, again, ← Machine.run_cons, ← run_blank rfl blank] at started
      obtain ⟨a, ms, w, tail, written, spells, same, resumed⟩ :=
        members_found starts [] left room started
      rw [written]
      exact ⟨'\x7b' :: (a ++ ['\x7d']), .object ms, w, tail, by simp, .object spells, same, resumed⟩

/-- A text that is read through from its first character on starts with a value. -/
theorem value_found (starts : Starts k) (left : cs.length < k)
    (room : stack.length + n = depthLimit) (solid : ¬ isSpace c)
    (done : (Machine.mk stack old .value).run (c :: cs) = some r) :
    Found stack old n (c :: cs) r .value [] Value.normal := by
  by_cases null : c = 'n'
  · rw [null] at done ⊢
    obtain ⟨tail, rfl, resumed⟩ := run_literal_some "ull".toList (by decide) done
    exact ⟨"null".toList, .null, .null, tail, rfl, .nullWord, fun _ => rfl, resumed⟩
  by_cases yes : c = 't'
  · rw [yes] at done ⊢
    obtain ⟨tail, rfl, resumed⟩ := run_literal_some "rue".toList (by decide) done
    exact ⟨"true".toList, .bool true, .bool true, tail, rfl, .trueWord, fun _ => rfl, resumed⟩
  by_cases no : c = 'f'
  · rw [no] at done ⊢
    obtain ⟨tail, rfl, resumed⟩ := run_literal_some "alse".toList (by decide) done
    exact ⟨"false".toList, .bool false, .bool false, tail, rfl, .falseWord, fun _ => rfl, resumed⟩
  by_cases quote : c = '"'
  · rw [quote] at done ⊢
    change (Machine.mk stack old (.string false [])).run cs = some r at done
    obtain ⟨a, s, tail, rfl, chars, ended⟩ := run_string_some done
    rw [run_endString, List.append_nil, List.reverse_reverse] at ended
    exact ⟨'"' :: (a ++ ['"']), .string (String.ofList s), .string (String.ofList s), tail,
      by simp, .string chars, fun _ => rfl, ended⟩
  by_cases bracket : c = '['
  · rw [bracket] at done ⊢
    obtain ⟨n, rfl, room, started⟩ := run_opened_some rfl room done
    exact array_found starts left room started
  by_cases brace : c = '\x7b'
  · rw [brace] at done ⊢
    obtain ⟨n, rfl, room, started⟩ := run_opened_some rfl room done
    exact object_found starts left room started
  cases next : NumberStage.start.next [] c with
  | none =>
    simp only [Machine.run_cons, Machine.feed, Machine.startValue, if_neg solid, if_neg null,
      if_neg yes, if_neg no, if_neg quote, if_neg bracket, if_neg brace, next] at done
    cases done
  | some p =>
    rw [Machine.run_cons, Machine.feed, startValue_number next] at done
    have started : Reached .start [] (List.reverse []) := .start
    obtain ⟨numeral, more, tail, rfl, spelled, resumed⟩ := run_number_some (started.next next) done
    exact ⟨c :: more, .number numeral.text, .number numeral.text, tail, rfl, .number spelled,
      fun _ => rfl, resumed⟩

theorem starts_all (k : Nat) : Starts k := by
  -- A value is longer than all that is in it, so the bound on the text carries the nesting.
  induction k with
  | zero => exact fun _ _ _ _ _ left => absurd left (Nat.not_lt_zero _)
  | succ k ih =>
    intro cs stack old n r left room done
    obtain ⟨pre, tail, rfl, blank, solid, started⟩ := run_value_space done rfl
    cases tail with
    | nil => cases started
    | cons c tail =>
      have shorter : tail.length < k := by
        simp only [List.length_append, List.length_cons] at left
        omega
      obtain ⟨a, v, w, tail, written, spells, same, resumed⟩ :=
        value_found ih shorter room (solid c rfl) started
      rw [written]
      refine ⟨pre ++ (a ++ []), v, w, tail, by simp, .spaced blank spells nofun, same, resumed⟩

/-! ### Whole texts -/

/-- What is read is JSON. -/
theorem text_of_read {s : String} {w : Value} (read : read s = .ok w) :
    ∃ v, Text s v ∧ (reservedKey ∉ v.keys → w = v.normal) := by
  have done := (read_eq_ok s w).mp read
  obtain ⟨a, v, x, tail, written, spells, same, resumed⟩ :=
    starts_all (s.toList.length + 1) s.toList [] none depthLimit w (Nat.lt_succ_self _)
      (Nat.zero_add _) done
  obtain ⟨blank, rfl⟩ := resume_nil_some resumed
  refine ⟨v, ?_, same⟩
  rw [Text, written]
  exact spells.pad blank

/-- What is JSON is read. -/
theorem read_of_text {s : String} {v : Value} (text : Text s v) (free : reservedKey ∉ v.keys) :
    read s = .ok v.normal := by
  rw [read_eq_ok]
  have room := Nat.le_of_eq (Nat.zero_add depthLimit)
  have reads := Spells.reads text free [] none .value [] rfl room follows_nil
  rw [List.append_nil] at reads
  exact reads

end Json

end QuoteKeeper
