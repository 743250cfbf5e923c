import QuoteKeeper.Proofs.Json.Numbers
import QuoteKeeper.Proofs.Json.Strings

/-!
# What is JSON is read

Whatever spells a part of a text is read, to what is kept of that part. The reserved key must not
occur, since it makes an object stand for a number. The induction follows the grammar: each part is
said together with the machine that meets it, and what follows it is left open.
-/

namespace QuoteKeeper

namespace Json

variable {stack : List Frame} {old : Option Value} {mode : Mode} {v r : Value}
variable {n : Nat} {cs tail : List Char} {c : Char} {part : Part}

theorem run_literal (rest : List Char) (some : rest ≠ []) :
    (Machine.mk stack old (.literal rest v)).run (rest ++ tail) = resume stack old v tail := by
  induction rest with
  | nil => exact absurd rfl some
  | cons c rest ih =>
    rw [List.cons_append, Machine.run_cons]
    cases rest with
    | nil =>
      simp only [Machine.feed, ne_eq, not_true, if_false, List.isEmpty_nil, if_true]
      exact run_complete _ v 1 tail
    | cons d rest =>
      simp only [Machine.feed, ne_eq, not_true, if_false, List.isEmpty_cons]
      exact ih (List.cons_ne_nil d rest)

/-- The part is read to what is kept of it, by a machine that may meet it. -/
def Reads (n : Nat) (cs : List Char) : Part → Prop
  | .value v => ∀ stack old tail, stack.length + n ≤ depthLimit → Follows tail →
      (Machine.mk stack old .value).run (cs ++ tail) = resume stack old v.normal tail
  | .spaced v => ∀ stack old mode tail, Mode.awaits mode → stack.length + n ≤ depthLimit →
      Follows tail → (Machine.mk stack old mode).run (cs ++ tail) = resume stack old v.normal tail
  | .items vs => ∀ stack old mode items tail, Mode.awaits mode → stack.length + n < depthLimit →
      (Machine.mk (.array items :: stack) old mode).run (cs ++ ']' :: tail) =
        resume stack old (.array (items.reverse ++ normalItems vs)) tail
  | .member key v => ∀ stack old mode kept last tail, Mode.awaitsKey mode →
      stack.length + n < depthLimit → Follows tail →
      (Machine.mk (.object kept last :: stack) old mode).run (cs ++ tail) =
        resume (.object kept key :: stack) old v.normal tail
  | .members ms => ∀ stack old mode kept last tail, Mode.awaitsKey mode →
      stack.length + n < depthLimit →
      (Machine.mk (.object kept last :: stack) old mode).run (cs ++ '\x7d' :: tail) =
        resume stack old (.object (collect kept (normalMembers ms))) tail

/-! ### Beginnings -/

/-- A value begins with a character that is neither space nor the end of an array. -/
theorem Spells.first (spells : Spells n cs (.value v)) :
    ∃ c rest, cs = c :: rest ∧ isSpace c = false ∧ c ≠ ']' := by
  cases spells with
  | nullWord => exact ⟨'n', _, rfl, rfl, by decide⟩
  | trueWord => exact ⟨'t', _, rfl, rfl, by decide⟩
  | falseWord => exact ⟨'f', _, rfl, rfl, by decide⟩
  | number spelled =>
    obtain ⟨c, rest, p, rfl, next⟩ := spelled.first
    refine ⟨c, rest, rfl, ?_⟩
    rcases numeric_of_start next with rfl | digit
    · exact ⟨rfl, by decide⟩
    · exact ⟨not_isSpace_of_isDigit digit, ne_of_isDigit digit rfl⟩
  | string chars => exact ⟨'"', _, rfl, rfl, by decide⟩
  | emptyArray blank => exact ⟨'[', _, rfl, rfl, by decide⟩
  | array items => exact ⟨'[', _, rfl, rfl, by decide⟩
  | emptyObject blank => exact ⟨'\x7b', _, rfl, rfl, by decide⟩
  | object members => exact ⟨'\x7b', _, rfl, rfl, by decide⟩

/-- An array or an object is opened, or refused as the text of a number. -/
theorem run_opened {frame : Frame} {empty : Value} {next : Mode}
    (opens : (Machine.mk stack old .value).startValue c =
      (Machine.mk stack old .value).push frame empty next)
    (room : stack.length < depthLimit) (value : ∀ s, v ≠ .string s)
    (inside : (Machine.mk (frame :: stack) old next).run cs = resume stack old v tail) :
    (Machine.mk stack old .value).run (c :: cs) = resume stack old v tail := by
  rw [Machine.run_cons, Machine.feed, opens]
  by_cases number : ∃ text rest, stack = .spelled text :: rest
  · obtain ⟨text, rest, rfl⟩ := number
    cases v with
    | string s => exact absurd rfl (value s)
    | _ => rfl
  · rw [push_ok room fun text rest same => number ⟨text, rest, same⟩]
    exact inside

/-! ### Parts -/

theorem reads_number {numeral : Numeral} (spelled : numeral.Spelled cs) :
    Reads n cs (.value (.number numeral.text)) := fun _ _ _ _ follows =>
  run_numeral spelled follows

theorem reads_string {s : List Char} (chars : Chars cs s) :
    Reads n ('"' :: (cs ++ ['"'])) (.value (.string (String.ofList s))) := by
  intro stack old tail room follows
  have written : '"' :: (cs ++ ['"']) ++ tail = '"' :: (cs ++ '"' :: tail) := by simp
  have opened : (Machine.mk stack old .value).run ('"' :: (cs ++ '"' :: tail)) =
      (Machine.mk stack old (.string false [])).run (cs ++ '"' :: tail) := rfl
  rw [written, opened, run_chars chars, run_endString, List.append_nil, List.reverse_reverse]
  rfl

theorem reads_spaced {pre post : List Char} (before : Blank pre) (spells : Spells n cs (.value v))
    (reads : Reads n cs (.value v)) (after : Blank post) :
    Reads n (pre ++ (cs ++ post)) (.spaced v) := by
  intro stack old mode tail awaits room follows
  have ends : Follows (post ++ tail) := by
    cases post with
    | nil => exact follows
    | cons c post =>
      intro d first
      cases first
      exact .inl (after c List.mem_cons_self)
  obtain ⟨c, rest, rfl, space, close⟩ := spells.first
  rw [List.append_assoc, run_blank (Mode.idle_of_awaits awaits) before, List.append_assoc,
    List.cons_append, run_awaits awaits space close]
  exact (reads stack old (post ++ tail) room ends).trans (resume_blank after tail)

theorem reads_member {pre key mid s : List Char} (before : Blank pre) (chars : Chars key s)
    (between : Blank mid) (free : String.ofList s ≠ reservedKey) (reads : Reads n cs (.spaced v)) :
    Reads n (pre ++ '"' :: (key ++ '"' :: (mid ++ ':' :: cs))) (.member (String.ofList s) v) := by
  intro stack old mode kept last tail awaits room follows
  have written : pre ++ '"' :: (key ++ '"' :: (mid ++ ':' :: cs)) ++ tail =
      pre ++ '"' :: (key ++ '"' :: (mid ++ ':' :: (cs ++ tail))) := by simp
  have opened (cs : List Char) :
      (Machine.mk (.object kept last :: stack) old mode).run ('"' :: cs) =
        (Machine.mk (.object kept last :: stack) old (.string true [])).run cs := by
    cases mode with
    | firstKey => rfl
    | nextKey => rfl
    | _ => cases awaits
  have frame : keyFrame kept (String.ofList s) = .object kept (String.ofList s) := by
    rw [keyFrame, if_neg]
    rw [Bool.and_eq_true, beq_iff_eq]
    exact fun both => free both.2
  have colon (cs : List Char) :
      (Machine.mk (.object kept (String.ofList s) :: stack) old .colon).run (':' :: cs) =
        (Machine.mk (.object kept (String.ofList s) :: stack) old .value).run cs := rfl
  rw [written, run_blank (Mode.idle_of_awaitsKey awaits) before, opened, run_chars chars,
    run_endKey, List.append_nil, List.reverse_reverse, frame, run_blank rfl between, colon]
  exact reads _ old .value tail rfl (by rw [List.length_cons]; omega) follows

theorem reads_emptyArray (blank : Blank cs) :
    Reads (n + 1) ('[' :: (cs ++ [']'])) (.value (.array [])) := by
  intro stack old tail room follows
  have closed : (Machine.mk (.array [] :: stack) old .firstItem).run (']' :: tail) =
      resume stack old (.array []) tail :=
    run_complete (Machine.mk stack old .firstItem) (.array []) 1 tail
  rw [List.cons_append, List.append_assoc]
  refine run_opened rfl (by omega) (fun s => nofun) ?_
  exact (run_blank rfl blank _).trans closed

theorem reads_array {vs : List Value} (reads : Reads n cs (.items vs)) :
    Reads (n + 1) ('[' :: (cs ++ [']'])) (.value (.array vs)) := by
  intro stack old tail room follows
  rw [List.cons_append, List.append_assoc]
  refine run_opened rfl (by omega) (fun s => nofun) ?_
  exact reads stack old .firstItem [] tail rfl (by omega)

theorem reads_emptyObject (blank : Blank cs) :
    Reads (n + 1) ('\x7b' :: (cs ++ ['\x7d'])) (.value (.object [])) := by
  intro stack old tail room follows
  have closed : (Machine.mk (.object [] "" :: stack) old .firstKey).run ('\x7d' :: tail) =
      resume stack old (.object []) tail :=
    run_complete (Machine.mk stack old .firstKey) (.object []) 1 tail
  rw [List.cons_append, List.append_assoc]
  refine run_opened rfl (by omega) (fun s => nofun) ?_
  exact (run_blank rfl blank _).trans closed

theorem reads_object {ms : List (String × Value)} (reads : Reads n cs (.members ms)) :
    Reads (n + 1) ('\x7b' :: (cs ++ ['\x7d'])) (.value (.object ms)) := by
  intro stack old tail room follows
  rw [List.cons_append, List.append_assoc]
  refine run_opened rfl (by omega) (fun s => nofun) ?_
  exact reads stack old .firstKey [] "" tail rfl (by omega)

theorem reads_lastItem (reads : Reads n cs (.spaced v)) : Reads n cs (.items [v]) := by
  intro stack old mode items tail awaits room
  rw [reads (.array items :: stack) old mode _ awaits (by rw [List.length_cons]; omega)
    (follows_cons (.inr (.inr (.inl rfl)))), resume_array, List.reverse_cons]
  rfl

theorem reads_nextItem {rest : List Char} {vs : List Value} (item : Reads n cs (.spaced v))
    (items : Reads n rest (.items vs)) : Reads n (cs ++ ',' :: rest) (.items (v :: vs)) := by
  intro stack old mode before tail awaits room
  rw [List.append_assoc, List.cons_append,
    item (.array before :: stack) old mode _ awaits (by rw [List.length_cons]; omega)
      (follows_cons (.inr (.inl rfl))), resume_item,
    items stack old .nextItem _ tail rfl room, List.reverse_cons, List.append_assoc]
  rfl

theorem reads_lastMember {key : String} (reads : Reads n cs (.member key v)) :
    Reads n cs (.members [(key, v)]) := by
  intro stack old mode kept last tail awaits room
  rw [reads stack old mode kept last _ awaits room (follows_cons (.inr (.inr (.inr rfl)))),
    resume_object]
  rfl

theorem reads_nextMember {rest : List Char} {key : String} {ms : List (String × Value)}
    (member : Reads n cs (.member key v)) (members : Reads n rest (.members ms)) :
    Reads n (cs ++ ',' :: rest) (.members ((key, v) :: ms)) := by
  intro stack old mode kept last tail awaits room
  rw [List.append_assoc, List.cons_append,
    member stack old mode kept last _ awaits room (follows_cons (.inr (.inl rfl))), resume_member,
    members stack old .nextKey _ "" tail rfl room]
  rfl

/-- What is spelled is read, to what is kept of it. -/
theorem Spells.reads (spells : Spells n cs part) (free : reservedKey ∉ part.keys) :
    Reads n cs part := by
  -- The keys of a part are those of the parts in it, so each of them is free of the reserved one.
  induction spells with
  | nullWord => exact fun _ _ tail _ _ => run_literal "ull".toList (by decide)
  | trueWord => exact fun _ _ tail _ _ => run_literal "rue".toList (by decide)
  | falseWord => exact fun _ _ tail _ _ => run_literal "alse".toList (by decide)
  | number spelled => exact reads_number spelled
  | string chars => exact reads_string chars
  | emptyArray blank => exact reads_emptyArray blank
  | array items ih => exact reads_array (ih free)
  | emptyObject blank => exact reads_emptyObject blank
  | object members ih => exact reads_object (ih free)
  | spaced before value after ih => exact reads_spaced before value (ih free) after
  | lastItem item ih =>
    refine reads_lastItem (ih fun mem => free ?_)
    simpa [Part.keys, keysOfItems] using mem
  | nextItem item items ihItem ihItems =>
    simp only [Part.keys, keysOfItems, List.mem_append, not_or] at free
    exact reads_nextItem (ihItem free.1) (ihItems free.2)
  | member before chars between value ih =>
    simp only [Part.keys, List.mem_cons, not_or] at free
    exact reads_member before chars between (Ne.symm free.1) (ih free.2)
  | lastMember member ih =>
    refine reads_lastMember (ih fun mem => free ?_)
    simpa [Part.keys, keysOfMembers] using mem
  | nextMember member members ihMember ihMembers =>
    simp only [Part.keys, keysOfMembers, List.cons_append, List.mem_cons, List.mem_append,
      not_or] at free
    refine reads_nextMember (ihMember fun mem => ?_) (ihMembers free.2.2)
    exact (List.mem_cons.mp mem).elim free.1 free.2.1

end Json

end QuoteKeeper
