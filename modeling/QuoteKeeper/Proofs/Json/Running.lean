import QuoteKeeper.Proofs.Json.Grammar

/-!
# The machine over the rest of a text

What the machine comes to over the characters that are left, with the place and the cause of a fault
forgotten. Between the parts of a text it skips space, and once a value is known what follows is
settled by the values that are still open.
-/

namespace QuoteKeeper

namespace Json

variable {stack rest : List Frame} {old : Option Value} {mode : Mode} {v r : Value}
variable {pre cs : List Char} {c : Char}

/-- What the machine makes of the rest of a text, if there is no fault. -/
def Machine.run (m : Machine) : List Char → Option Value
  | [] => m.finish.toOption
  | c :: cs => (m.feed c).toOption.bind fun m => m.run cs

theorem Machine.run_nil (m : Machine) : m.run [] = m.finish.toOption := rfl

theorem Machine.run_cons (m : Machine) (c : Char) (cs : List Char) :
    m.run (c :: cs) = (m.feed c).toOption.bind fun m => m.run cs := rfl

theorem readFrom_toOption (text : String) (m : Machine) (offset : Nat) (cs : List Char) :
    (readFrom text m offset cs).toOption = m.run cs := by
  induction cs generalizing m offset with
  | nil =>
    rw [readFrom, Machine.run_nil]
    cases m.finish <;> rfl
  | cons c cs ih =>
    rw [readFrom, Machine.run_cons]
    cases m.feed c with
    | ok m => exact ih m _
    | error stop => rfl

theorem read_eq_ok (s : String) (v : Value) :
    read s = .ok v ↔ Machine.start.run s.toList = some v := by
  rw [← readFrom_toOption s Machine.start 0 s.toList, ← read]
  cases read s <;> simp [Except.toOption]

/-! ### After a value -/

/-- The machine once a value is known, if the innermost open value can take it. -/
def settled (stack : List Frame) (old : Option Value) (v : Value) : Option Machine :=
  ((Machine.mk stack old .after).complete v 0).toOption

/-- What becomes of the rest of a text once a value is known. -/
def resume (stack : List Frame) (old : Option Value) (v : Value) (cs : List Char) : Option Value :=
  (settled stack old v).bind fun m => m.run cs

theorem complete_toOption (m : Machine) (v : Value) (byte : Nat) :
    (m.complete v byte).toOption = settled m.stack m.result v := by
  obtain ⟨stack, old, mode⟩ := m
  rcases stack with _ | ⟨_ | _ | _, rest⟩
  · rfl
  · rfl
  · rfl
  · cases v with
    | string s =>
      simp only [settled, Machine.complete]
    | null => rfl
    | bool b => rfl
    | number text => rfl
    | array items => rfl
    | object members => rfl

theorem run_complete (m : Machine) (v : Value) (byte : Nat) (cs : List Char) :
    ((m.complete v byte).toOption.bind fun m => m.run cs) = resume m.stack m.result v cs := by
  rw [complete_toOption]
  rfl

/-- A known value is followed by an end of some kind. -/
theorem settled_mode {m : Machine} (found : settled stack old v = some m) : m.mode = .after := by
  rcases stack with _ | ⟨_ | _ | _, rest⟩
  · cases found
    rfl
  · cases found
    rfl
  · cases found
    rfl
  · cases v with
    | string s =>
      simp only [settled, Machine.complete] at found
      cases read : readNumber s with
      | ok number =>
        rw [read] at found
        cases found
        rfl
      | error fault =>
        rw [read] at found
        cases found
    | null => cases found
    | bool b => cases found
    | number text => cases found
    | array items => cases found
    | object members => cases found

/-! ### Space -/

/-- The machine is between two parts of the text. -/
def Mode.idle : Mode → Bool
  | value | firstItem | nextItem | firstKey | nextKey | colon | after => true
  | literal _ _ | number _ _ | string _ _ | escape _ _ _ => false

theorem isSpace_cases (space : isSpace c) : c = ' ' ∨ c = '\t' ∨ c = '\n' ∨ c = '\r' := by
  simpa [isSpace, or_assoc] using space

theorem feed_space (idle : mode.idle) (space : isSpace c) :
    (Machine.mk stack old mode).feed c = .ok (Machine.mk stack old mode) := by
  have item : c ≠ ']' := by rcases isSpace_cases space with h | h | h | h <;> rw [h] <;> decide
  cases mode with
  | value => simp [Machine.feed, Machine.startValue, space]
  | firstItem => simp [Machine.feed, Machine.startValue, space, item]
  | nextItem => simp [Machine.feed, Machine.startValue, space, item]
  | firstKey => simp [Machine.feed, space]
  | nextKey => simp [Machine.feed, space]
  | colon => simp [Machine.feed, space]
  | after => simp [Machine.feed, Machine.afterValue, space]
  | literal rest v => cases idle
  | number stage text => cases idle
  | string isKey text => cases idle
  | escape isKey text stage => cases idle

theorem run_blank (idle : mode.idle) (blank : Blank pre) (cs : List Char) :
    (Machine.mk stack old mode).run (pre ++ cs) = (Machine.mk stack old mode).run cs := by
  induction pre with
  | nil => rfl
  | cons c pre ih =>
    rw [List.cons_append, Machine.run_cons, feed_space idle (blank c List.mem_cons_self)]
    exact ih fun d mem => blank d (List.mem_cons_of_mem c mem)

theorem resume_blank (blank : Blank pre) (cs : List Char) :
    resume stack old v (pre ++ cs) = resume stack old v cs := by
  rw [resume, resume]
  cases found : settled stack old v with
  | none => rfl
  | some m =>
    obtain ⟨stack, old, mode⟩ := m
    cases settled_mode found
    exact run_blank rfl blank cs

/-- A text is space and then either nothing or something else. -/
theorem blank_split (cs : List Char) :
    ∃ pre tail, cs = pre ++ tail ∧ Blank pre ∧ ∀ c ∈ tail.head?, ¬ isSpace c := by
  refine ⟨cs.takeWhile isSpace, cs.dropWhile isSpace, List.takeWhile_append_dropWhile.symm,
    fun c mem => List.all_eq_true.mp List.all_takeWhile c mem, fun c first => ?_⟩
  have dropped := List.head?_dropWhile_not isSpace cs
  rw [Option.mem_def.mp first] at dropped
  simpa using dropped

/-! ### Before a value -/

/-- A value may come next. -/
def Mode.awaits : Mode → Bool
  | value | firstItem | nextItem => true
  | _ => false

/-- A key may come next. -/
def Mode.awaitsKey : Mode → Bool
  | firstKey | nextKey => true
  | _ => false

theorem Mode.idle_of_awaits (awaits : mode.awaits) : mode.idle := by
  cases mode <;> first | rfl | cases awaits

theorem Mode.idle_of_awaitsKey (awaits : mode.awaitsKey) : mode.idle := by
  cases mode <;> first | rfl | cases awaits

/-- A value begins in the same way wherever one may come next. -/
theorem run_awaits (awaits : mode.awaits) (space : isSpace c = false) (close : c ≠ ']')
    (cs : List Char) :
    (Machine.mk stack old mode).run (c :: cs) = (Machine.mk stack old .value).run (c :: cs) := by
  have begun (mode : Mode) : (Machine.mk stack old mode).startValue c =
      (Machine.mk stack old .value).startValue c := by
    simp only [Machine.startValue, space]
    rfl
  have fed : (Machine.mk stack old mode).feed c = (Machine.mk stack old .value).feed c := by
    cases mode with
    | value => rfl
    | firstItem => exact (if_neg close).trans (begun .firstItem)
    | nextItem => exact (if_neg close).trans (begun .nextItem)
    | _ => cases awaits
  rw [Machine.run_cons, Machine.run_cons, fed]

/-- A number is no array and no object, so nothing can be opened where only its text is awaited. -/
theorem push_ok {frame : Frame} {empty : Value} {next : Mode} (room : stack.length < depthLimit)
    (other : ∀ number rest, stack ≠ .spelled number :: rest) :
    (Machine.mk stack old mode).push frame empty next =
      .ok (Machine.mk (frame :: stack) old next) := by
  rcases stack with _ | ⟨_ | _ | number, rest⟩
  · rw [Machine.push, if_pos room]
  · rw [Machine.push, if_pos room]
  · rw [Machine.push, if_pos room]
  · exact absurd rfl (other number rest)

/-- Nothing is opened within as many values as there may be. -/
theorem push_full {frame : Frame} {empty : Value} {next : Mode}
    (full : ¬ stack.length < depthLimit) :
    ((Machine.mk stack old mode).push frame empty next).toOption = none := by
  rcases stack with _ | ⟨_ | _ | number, rest⟩
  · rw [Machine.push, if_neg full]
    rfl
  · rw [Machine.push, if_neg full]
    rfl
  · rw [Machine.push, if_neg full]
    rfl
  · rfl

/-! ### What follows a value -/

/-- What can come right after a value. -/
def Ends (c : Char) : Prop := isSpace c ∨ c = ',' ∨ c = ']' ∨ c = '\x7d'

/-- Nothing but the end of a value can come next. -/
def Follows (cs : List Char) : Prop := ∀ c ∈ cs.head?, Ends c

theorem follows_nil : Follows [] := nofun

theorem follows_cons (ends : Ends c) : Follows (c :: cs) := by
  intro d first
  cases first
  exact ends

theorem resume_item (items : List Value) (cs : List Char) :
    resume (.array items :: rest) old v (',' :: cs) =
      (Machine.mk (.array (v :: items) :: rest) old .nextItem).run cs := rfl

theorem resume_array (items : List Value) (cs : List Char) :
    resume (.array items :: rest) old v (']' :: cs) =
      resume rest old (.array (v :: items).reverse) cs :=
  run_complete (Machine.mk rest old .after) (.array (v :: items).reverse) 1 cs

theorem resume_member (ms : List (String × Value)) (key : String) (cs : List Char) :
    resume (.object ms key :: rest) old v (',' :: cs) =
      (Machine.mk (.object (insertMember key v ms) "" :: rest) old .nextKey).run cs := rfl

theorem resume_object (ms : List (String × Value)) (key : String) (cs : List Char) :
    resume (.object ms key :: rest) old v ('\x7d' :: cs) =
      resume rest old (.object (insertMember key v ms)) cs :=
  run_complete (Machine.mk rest old .after) (.object (insertMember key v ms)) 1 cs

end Json

end QuoteKeeper
