import QuoteKeeper.Proofs.Json.Running

/-!
# Numbers as the machine reads them

The stages of a number read exactly the spellings of the grammar. `Reached` says what has been read
at each stage and what text is kept of it; one character keeps it, and a number that may end is a
numeral. The other way round, the parts of a numeral lead from stage to stage.
-/

namespace QuoteKeeper

namespace Json

variable {stack : List Frame} {old : Option Value} {v r : Value}
variable {stage stage' : NumberStage} {text text' cs : List Char} {c : Char}

theorem ne_of_isDigit {d : Char} (digit : c.isDigit) (other : d.isDigit = false) : c ≠ d := by
  rintro rfl
  rw [digit] at other
  cases other

theorem not_isSpace_of_isDigit (digit : c.isDigit) : isSpace c = false := by
  cases space : isSpace c with
  | false => rfl
  | true =>
    rcases isSpace_cases space with same | same | same | same <;>
      exact absurd same (ne_of_isDigit digit rfl)

/-! ### A numeral with one more character -/

theorem digits_singleton (digit : c.isDigit) : AreDigits [c] := by
  refine ⟨List.cons_ne_nil c [], fun d mem => ?_⟩
  rw [List.mem_singleton.mp mem]
  exact digit

theorem digits_snoc {ds : List Char} (digits : ∀ d ∈ ds, d.isDigit) (digit : c.isDigit) :
    ∀ d ∈ ds ++ [c], d.isDigit := by
  intro d mem
  rcases List.mem_append.mp mem with mem | mem
  · exact digits d mem
  · rw [List.mem_singleton.mp mem]
    exact digit

/-- An exponent with one more digit. -/
def Exponent.snoc (e : Exponent) (digit : c.isDigit) : Exponent :=
  { e with
    digits := e.digits ++ [c]
    digits_ok := ⟨by simp, digits_snoc e.digits_ok.2 digit⟩ }

namespace Numeral

/-- A sign and one digit. -/
def ofDigit (negative : Bool) (digit : c.isDigit) : Numeral where
  negative := negative
  whole := [c]
  fraction := []
  exponent := none
  whole_ok := digits_singleton digit
  whole_head := fun zero => by rw [Option.some.inj zero]
  fraction_ok := by simp

theorem head_snoc (n : Numeral) (c : Char) : (n.whole ++ [c]).head? = n.whole.head? := by
  obtain ⟨d, ds, written⟩ := List.exists_cons_of_ne_nil n.whole_ok.1
  rw [written]
  rfl

/-- One more digit of the whole part. -/
def wholeSnoc (n : Numeral) (digit : c.isDigit) (leads : n.whole.head? ≠ some '0') : Numeral :=
  { n with
    whole := n.whole ++ [c]
    whole_ok := ⟨by simp, digits_snoc n.whole_ok.2 digit⟩
    whole_head := fun zero => absurd ((n.head_snoc c).symm.trans zero) leads }

/-- One more digit after the point. -/
def fractionSnoc (n : Numeral) (digit : c.isDigit) : Numeral :=
  { n with
    fraction := n.fraction ++ [c]
    fraction_ok := digits_snoc n.fraction_ok digit }

theorem mantissa_fractionSnoc (n : Numeral) (digit : c.isDigit) :
    (n.fractionSnoc digit).mantissa = n.sign ++ (n.whole ++ '.' :: (n.fraction ++ [c])) := by
  have placed : (n.fractionSnoc digit).fraction ≠ [] := by simp [fractionSnoc]
  rw [mantissa, point, if_neg placed]
  rfl

/-- The numeral with this exponent. -/
def scaled (n : Numeral) (e : Exponent) : Numeral := { n with exponent := some e }

theorem chars_plain {n : Numeral} (plain : n.exponent = none) : n.chars = n.mantissa := by
  rw [chars, plain]

@[simp] theorem mantissa_scaled (n : Numeral) (e : Exponent) :
    (n.scaled e).mantissa = n.mantissa := rfl

theorem chars_scaled (n : Numeral) (e : Exponent) :
    (n.scaled e).chars =
      n.mantissa ++ 'e' :: (if e.negative then '-' else '+') :: e.digits := rfl

end Numeral

/-! ### From stages to numerals -/

/-- What has been read when the number has come to a stage, and what is kept of it. -/
inductive Reached : NumberStage → List Char → List Char → Prop where
  | start : Reached .start [] []
  | minus : Reached .minus ['-'] ['-']
  | zero (n : Numeral) (bare : n.fraction = [] ∧ n.exponent = none) :
      Reached .zero n.mantissa n.mantissa
  | whole (n : Numeral) (bare : n.fraction = [] ∧ n.exponent = none)
      (leads : n.whole.head? ≠ some '0') : Reached .whole n.mantissa n.mantissa
  | point (n : Numeral) (bare : n.fraction = [] ∧ n.exponent = none) :
      Reached .point (n.mantissa ++ ['.']) (n.mantissa ++ ['.'])
  | fraction (n : Numeral) (placed : n.fraction ≠ []) (plain : n.exponent = none) :
      Reached .fraction n.mantissa n.mantissa
  | mark (n : Numeral) (plain : n.exponent = none) {mark : Char}
      (marked : mark = 'e' ∨ mark = 'E') :
      Reached .mark (n.mantissa ++ [mark]) (n.mantissa ++ ['e'])
  | sign (n : Numeral) (plain : n.exponent = none) {mark : Char}
      (marked : mark = 'e' ∨ mark = 'E') (negative : Bool) :
      Reached .sign (n.mantissa ++ [mark, if negative then '-' else '+'])
        (n.mantissa ++ ['e', if negative then '-' else '+'])
  | exponent (n : Numeral) (e : Exponent) (some : n.exponent = some e) {read : List Char}
      (spelled : n.Spelled read) : Reached .exponent read n.chars

namespace Reached

variable {read : List Char}

/-- The first digit, after the sign if there is one. -/
theorem first (negative : Bool)
    (next : NumberStage.next.zeroOrDigit text c = some (stage', text'))
    (signed : text.reverse = if negative then ['-'] else []) :
    Reached stage' (text.reverse ++ [c]) text'.reverse := by
  rw [NumberStage.next.zeroOrDigit] at next
  split at next
  next zero =>
    cases next
    rw [List.reverse_cons, signed, zero]
    exact .zero (Numeral.ofDigit (c := '0') negative (by decide)) ⟨rfl, rfl⟩
  next other =>
    rw [NumberStage.next.digit] at next
    split at next
    next digit =>
      cases next
      rw [List.reverse_cons, signed]
      exact .whole (Numeral.ofDigit negative digit) ⟨rfl, rfl⟩
        fun first => other (Option.some.inj first)
    next => cases next

/-- The mark of an exponent. -/
theorem markNext {n : Numeral} (plain : n.exponent = none) (kept : text.reverse = n.mantissa)
    (next : NumberStage.next.mark? text c = some (stage', text')) :
    Reached stage' (n.mantissa ++ [c]) text'.reverse := by
  rw [NumberStage.next.mark?] at next
  split at next
  next marked =>
    cases next
    rw [List.reverse_cons, kept]
    exact .mark n plain (by simpa using marked)
  next => cases next

/-- The point after the whole part, or the mark of an exponent. -/
theorem pointNext {n : Numeral} (bare : n.fraction = [] ∧ n.exponent = none)
    (kept : text.reverse = n.mantissa)
    (next : NumberStage.next.pointOrMark text c = some (stage', text')) :
    Reached stage' (n.mantissa ++ [c]) text'.reverse := by
  rw [NumberStage.next.pointOrMark] at next
  split at next
  next point =>
    cases next
    rw [List.reverse_cons, kept, point]
    exact .point n bare
  next => exact markNext bare.2 kept next

/-- A digit after the point. -/
theorem fractionNext {n : Numeral} (plain : n.exponent = none) (digit : c.isDigit) {pre : List Char}
    (written : pre ++ [c] = n.sign ++ (n.whole ++ '.' :: (n.fraction ++ [c]))) :
    Reached .fraction (pre ++ [c]) (pre ++ [c]) := by
  rw [written, ← n.mantissa_fractionSnoc digit]
  exact .fraction _ (by simp [Numeral.fractionSnoc]) plain

/-- The first digit of an exponent. -/
theorem exponentFirst {n : Numeral} (digit : c.isDigit) {mark : Char}
    (marked : mark = 'e' ∨ mark = 'E') (negative : Bool) (sign : List Char)
    (signed : (Exponent.mk negative [c] (digits_singleton digit)).Signed sign) :
    Reached .exponent (n.mantissa ++ mark :: (sign ++ [c]))
      (n.mantissa ++ ['e', if negative then '-' else '+', c]) :=
  .exponent (n.scaled ⟨negative, [c], digits_singleton digit⟩) _ rfl (.scientific rfl marked signed)

/-- One more digit of an exponent. -/
theorem exponentNext {n : Numeral} {e : Exponent} (some : n.exponent = some e)
    (spelled : n.Spelled read) (digit : c.isDigit) :
    Reached .exponent (read ++ [c]) (n.chars ++ [c]) := by
  have chars : (n.scaled (e.snoc digit)).chars = n.chars ++ [c] := by
    rw [Numeral.chars_scaled, Numeral.chars, some]
    exact (List.append_assoc n.mantissa
      ('e' :: (if e.negative then '-' else '+') :: e.digits) [c]).symm
  rw [← chars]
  refine .exponent _ _ rfl ?_
  cases spelled with
  | plain none => cases some.symm.trans none
  | @scientific e' same mark marked sign signed =>
    cases Option.some.inj (some.symm.trans same)
    have longer := Numeral.Spelled.scientific (n := n.scaled (e.snoc digit)) rfl marked signed
    simpa [Exponent.snoc] using longer

/-- One character. -/
theorem next (reached : Reached stage read text.reverse)
    (next : stage.next text c = some (stage', text')) :
    Reached stage' (read ++ [c]) text'.reverse := by
  generalize kept : text.reverse = written at reached
  cases reached with
  | start =>
    cases List.reverse_eq_nil_iff.mp kept
    rw [NumberStage.next] at next
    split at next
    next minus =>
      cases next
      rw [minus]
      exact .minus
    next => exact first false next rfl
  | minus =>
    rw [← kept]
    exact first true next kept
  | zero n bare => exact pointNext bare kept next
  | whole n bare leads =>
    rw [NumberStage.next] at next
    split at next
    next digit =>
      cases next
      have mantissa : (n.wholeSnoc digit leads).mantissa = n.mantissa ++ [c] := by
        simp [Numeral.mantissa, Numeral.sign, Numeral.point, Numeral.wholeSnoc, bare.1]
      rw [List.reverse_cons, kept, ← mantissa]
      exact .whole _ bare fun zero => leads ((n.head_snoc c).symm.trans zero)
    next => exact pointNext bare kept next
  | point n bare =>
    rw [NumberStage.next, NumberStage.next.digit] at next
    split at next
    next digit =>
      cases next
      rw [List.reverse_cons, kept]
      exact fractionNext bare.2 digit (by simp [Numeral.mantissa, Numeral.point, bare.1])
    next => cases next
  | fraction n placed plain =>
    rw [NumberStage.next] at next
    split at next
    next digit =>
      cases next
      rw [List.reverse_cons, kept]
      exact fractionNext plain digit (by simp [Numeral.mantissa, Numeral.point, placed])
    next => exact markNext plain kept next
  | mark n plain marked =>
    rw [NumberStage.next] at next
    split at next
    next signed =>
      cases next
      rw [List.reverse_cons, kept]
      rcases (by simpa using signed : c = '+' ∨ c = '-') with rfl | rfl
      · simpa using Reached.sign n plain marked false
      · simpa using Reached.sign n plain marked true
    next =>
      split at next
      next digit =>
        cases next
        rw [List.reverse_cons, List.reverse_cons, kept]
        simpa using exponentFirst (n := n) digit marked false [] (.inl rfl)
      next => cases next
  | sign n plain marked negative =>
    rw [NumberStage.next, NumberStage.next.digit] at next
    split at next
    next digit =>
      cases next
      rw [List.reverse_cons, kept]
      cases negative with
      | false => simpa using exponentFirst (n := n) digit marked false ['+'] (.inr rfl)
      | true => simpa using exponentFirst (n := n) digit marked true ['-'] rfl
    next => cases next
  | exponent n e some spelled =>
    rw [NumberStage.next, NumberStage.next.digit] at next
    split at next
    next digit =>
      cases next
      rw [List.reverse_cons, kept]
      exact exponentNext some spelled digit
    next => cases next

/-- A number that may end is a numeral. -/
theorem numeral (reached : Reached stage read text.reverse) (complete : stage.isComplete) :
    ∃ n : Numeral, n.Spelled read ∧ n.text = numberText text := by
  rw [numberText]
  generalize text.reverse = kept at reached
  cases reached with
  | zero n bare => exact ⟨n, .plain bare.2, by rw [Numeral.text, Numeral.chars_plain bare.2]⟩
  | whole n bare leads => exact ⟨n, .plain bare.2, by rw [Numeral.text, Numeral.chars_plain bare.2]⟩
  | fraction n placed plain =>
    exact ⟨n, .plain plain, by rw [Numeral.text, Numeral.chars_plain plain]⟩
  | exponent n e some spelled => exact ⟨n, spelled, rfl⟩
  | start => cases complete
  | minus => cases complete
  | point n bare => cases complete
  | mark n plain marked => cases complete
  | sign n plain marked negative => cases complete

end Reached

/-! ### From numerals to stages -/

/-- The characters of a number one after the other, from a stage with the text so far. -/
def NumberStage.scan (stage : NumberStage) (text : List Char) :
    List Char → Option (NumberStage × List Char)
  | [] => some (stage, text)
  | c :: cs => (stage.next text c).bind fun p => p.1.scan p.2 cs

theorem scan_append (stage : NumberStage) (text as bs : List Char) :
    stage.scan text (as ++ bs) = (stage.scan text as).bind fun p => p.1.scan p.2 bs := by
  induction as generalizing stage text with
  | nil => rfl
  | cons c as ih =>
    rw [List.cons_append, NumberStage.scan, NumberStage.scan]
    cases stage.next text c with
    | none => rfl
    | some p => exact ih p.1 p.2

/-- A stage that takes any number of digits. -/
def NumberStage.TakesDigits (stage : NumberStage) : Prop :=
  ∀ text c, c.isDigit → stage.next text c = some (stage, c :: text)

theorem takesDigits_whole : NumberStage.whole.TakesDigits := fun text c digit => by
  rw [NumberStage.next, if_pos digit]

theorem takesDigits_fraction : NumberStage.fraction.TakesDigits := fun text c digit => by
  rw [NumberStage.next, if_pos digit]

theorem takesDigits_exponent : NumberStage.exponent.TakesDigits := fun text c digit => by
  rw [NumberStage.next, NumberStage.next.digit, if_pos digit]

theorem scan_digits (takes : stage.TakesDigits) {ds : List Char} (digits : ∀ c ∈ ds, c.isDigit)
    (text : List Char) : stage.scan text ds = some (stage, ds.reverse ++ text) := by
  induction ds generalizing text with
  | nil => rfl
  | cons c ds ih =>
    rw [NumberStage.scan, takes text c (digits c List.mem_cons_self), Option.bind_some,
      ih (fun d mem => digits d (List.mem_cons_of_mem c mem)), List.reverse_cons, List.append_assoc]
    rfl

namespace Numeral

variable (n : Numeral)

/-- The stage of the whole part. -/
def wholeStage : NumberStage := if n.whole = ['0'] then .zero else .whole

/-- The stage before the exponent. -/
def mantissaStage : NumberStage := if n.fraction = [] then n.wholeStage else .fraction

theorem scan_sign_whole :
    NumberStage.start.scan [] (n.sign ++ n.whole) =
      some (n.wholeStage, n.whole.reverse ++ n.sign) := by
  obtain ⟨d, ds, written⟩ := List.exists_cons_of_ne_nil n.whole_ok.1
  have digits := n.whole_ok.2
  have leads := n.whole_head
  rw [written] at digits leads
  have digit := digits d List.mem_cons_self
  have first (text : List Char) : NumberStage.next.zeroOrDigit text d =
      some (if d = '0' then .zero else .whole, d :: text) := by
    rw [NumberStage.next.zeroOrDigit, NumberStage.next.digit, if_pos digit]
    split <;> rfl
  have rest (text : List Char) :
      (if d = '0' then NumberStage.zero else .whole).scan (d :: text) ds =
        some (n.wholeStage, (d :: ds).reverse ++ text) := by
    rw [wholeStage, written]
    split
    next zero =>
      cases leads (by rw [zero]; rfl)
      rfl
    next other =>
      have longer : d :: ds ≠ ['0'] := fun same => other (List.cons.inj same).1
      rw [if_neg longer, scan_digits takesDigits_whole
        fun c mem => digits c (List.mem_cons_of_mem d mem), List.reverse_cons, List.append_assoc]
      rfl
  rw [written, sign]
  cases n.negative with
  | true => exact (congrArg (Option.bind · _) (first ['-'])).trans (rest ['-'])
  | false =>
    have next : NumberStage.start.next [] d = NumberStage.next.zeroOrDigit [] d := by
      rw [NumberStage.next, if_neg (ne_of_isDigit digit rfl)]
    exact (congrArg (Option.bind · _) (next.trans (first []))).trans (rest [])

theorem scan_mantissa :
    NumberStage.start.scan [] n.mantissa = some (n.mantissaStage, n.mantissa.reverse) := by
  have signed : n.sign.reverse = n.sign := by
    rw [sign]
    split <;> rfl
  rw [mantissa, ← List.append_assoc, scan_append, scan_sign_whole, Option.bind_some,
    List.reverse_append, List.reverse_append, signed, mantissaStage, point]
  split
  next => rfl
  next placed =>
    obtain ⟨d, ds, written⟩ := List.exists_cons_of_ne_nil placed
    have digits := n.fraction_ok
    rw [written] at digits ⊢
    have digit := digits d List.mem_cons_self
    have point (text : List Char) :
        n.wholeStage.next text '.' = some (NumberStage.point, '.' :: text) := by
      rw [wholeStage]
      split <;> rfl
    have first (text : List Char) :
        NumberStage.point.next text d = some (NumberStage.fraction, d :: text) := by
      rw [NumberStage.next, NumberStage.next.digit, if_pos digit]
    rw [NumberStage.scan, point, Option.bind_some, NumberStage.scan, first, Option.bind_some,
      scan_digits takesDigits_fraction fun c mem => digits c (List.mem_cons_of_mem d mem)]
    simp

theorem mantissaStage_cases :
    n.mantissaStage = .zero ∨ n.mantissaStage = .whole ∨ n.mantissaStage = .fraction := by
  rw [mantissaStage, wholeStage]
  split
  next =>
    split
    · exact .inl rfl
    · exact .inr (.inl rfl)
  next => exact .inr (.inr rfl)

/-- The exponent after its mark: a plus that is not written is kept. -/
theorem scan_exponent {e : Exponent} {sign : List Char} (signed : e.Signed sign)
    (text : List Char) : NumberStage.mark.scan text (sign ++ e.digits) =
      some (.exponent, e.digits.reverse ++ (if e.negative then '-' else '+') :: text) := by
  obtain ⟨d, ds, written⟩ := List.exists_cons_of_ne_nil e.digits_ok.1
  have digits := e.digits_ok.2
  rw [written] at digits ⊢
  have digit := digits d List.mem_cons_self
  have unsigned : ¬ (d = '+' ∨ d = '-') :=
    not_or.mpr ⟨ne_of_isDigit digit rfl, ne_of_isDigit digit rfl⟩
  have more (text : List Char) :
      NumberStage.exponent.scan (d :: text) ds = some (.exponent, (d :: ds).reverse ++ text) := by
    rw [scan_digits takesDigits_exponent fun c mem => digits c (List.mem_cons_of_mem d mem),
      List.reverse_cons, List.append_assoc]
    rfl
  have afterSign (text : List Char) :
      NumberStage.sign.scan text (d :: ds) = some (.exponent, (d :: ds).reverse ++ text) := by
    rw [NumberStage.scan, NumberStage.next, NumberStage.next.digit, if_pos digit]
    exact more text
  rw [Exponent.Signed] at signed
  split at signed
  next negative =>
    rw [signed, if_pos negative]
    exact afterSign _
  next positive =>
    rw [if_neg positive]
    rcases signed with rfl | rfl
    · rw [List.nil_append, NumberStage.scan, NumberStage.next, if_neg (by simpa using unsigned),
        if_pos digit]
      exact more _
    · exact afterSign _

/-- What is kept of a spelling is the numeral's text, and the number may end there. -/
theorem scan_spelled {n : Numeral} (spelled : n.Spelled cs) :
    ∃ stage : NumberStage, NumberStage.start.scan [] cs = some (stage, n.chars.reverse) ∧
      stage.isComplete := by
  cases spelled with
  | plain none =>
    refine ⟨n.mantissaStage, by rw [scan_mantissa, chars_plain none], ?_⟩
    rcases n.mantissaStage_cases with stage | stage | stage <;> rw [stage] <;> rfl
  | @scientific e some mark marked sign signed =>
    refine ⟨.exponent, ?_, rfl⟩
    have marks (text : List Char) :
        n.mantissaStage.next text mark = Option.some (NumberStage.mark, 'e' :: text) := by
      rcases n.mantissaStage_cases with stage | stage | stage <;>
        rcases marked with rfl | rfl <;> rw [stage] <;> rfl
    rw [scan_append, scan_mantissa, Option.bind_some, NumberStage.scan, marks, Option.bind_some,
      scan_exponent signed, chars, some]
    simp

end Numeral

/-! ### The machine on a number -/

theorem toOption_bind {ε α β : Type} (x : Except ε α) (f : α → Except ε β) :
    (x >>= f).toOption = x.toOption.bind fun a => (f a).toOption := by
  cases x <;> rfl

theorem run_scan (scanned : stage.scan text cs = some (stage', text')) (tail : List Char) :
    (Machine.mk stack old (.number stage text)).run (cs ++ tail) =
      (Machine.mk stack old (.number stage' text')).run tail := by
  induction cs generalizing stage text with
  | nil =>
    cases scanned
    rfl
  | cons c cs ih =>
    obtain ⟨p, next, more⟩ := Option.bind_eq_some_iff.mp scanned
    have fed : (Machine.mk stack old (.number stage text)).feed c =
        .ok (Machine.mk stack old (.number p.1 p.2)) := by
      simp only [Machine.feed, Machine.feedNumber, next]
    rw [List.cons_append, Machine.run_cons, fed]
    exact ih more

/-- A character that does not belong to a number ends it. -/
theorem run_number_stop (complete : stage.isComplete) (stop : stage.next text c = none)
    (notZero : (stage == .zero && c.isDigit) = false) :
    (Machine.mk stack old (.number stage text)).run (c :: cs) =
      resume stack old (.number (numberText text)) (c :: cs) := by
  have fed : (Machine.mk stack old (.number stage text)).feed c =
      ((Machine.mk stack old (.number stage text)).complete (.number (numberText text)) 0 >>=
        fun m => m.afterValue c) := by
    simp only [Machine.feed, Machine.feedNumber, stop, complete, notZero, Bool.not_false,
      Bool.and_self, if_true]
  rw [Machine.run_cons, fed, toOption_bind, complete_toOption, resume, Option.bind_assoc]
  refine Option.bind_congr fun m found => ?_
  rw [Machine.run_cons, Machine.feed, settled_mode found]

theorem run_number_nil (complete : stage.isComplete) :
    (Machine.mk stack old (.number stage text)).run [] =
      resume stack old (.number (numberText text)) [] := by
  have ended : (Machine.mk stack old (.number stage text)).finish =
      ((Machine.mk stack old (.number stage text)).complete (.number (numberText text)) 0 >>=
        Machine.finish.finished) := by
    simp only [Machine.finish, complete, if_true]
  rw [Machine.run_nil, ended, toOption_bind, complete_toOption, resume]
  refine Option.bind_congr fun m found => ?_
  rw [Machine.run_nil, Machine.finish, settled_mode found]

theorem Ends.not_numeric (ends : Ends c) :
    c.isDigit = false ∧ c ≠ '.' ∧ c ≠ 'e' ∧ c ≠ 'E' := by
  rcases ends with space | rfl | rfl | rfl
  · rcases isSpace_cases space with rfl | rfl | rfl | rfl <;> decide
  · decide
  · decide
  · decide

/-- What can come right after a value does not belong to a number. -/
theorem next_ends (complete : stage.isComplete) (ends : Ends c) : stage.next text c = none := by
  obtain ⟨digit, point, small, large⟩ := ends.not_numeric
  cases stage with
  | zero => simp [NumberStage.next, NumberStage.next.pointOrMark, NumberStage.next.mark?, *]
  | whole => simp [NumberStage.next, NumberStage.next.pointOrMark, NumberStage.next.mark?, *]
  | fraction => simp [NumberStage.next, NumberStage.next.mark?, *]
  | exponent => simp [NumberStage.next, NumberStage.next.digit, *]
  | start => cases complete
  | minus => cases complete
  | point => cases complete
  | mark => cases complete
  | sign => cases complete

/-- The character after a number ends it. -/
theorem run_after_number (complete : stage.isComplete) (follows : Follows cs) :
    (Machine.mk stack old (.number stage text)).run cs =
      resume stack old (.number (numberText text)) cs := by
  cases cs with
  | nil => exact run_number_nil complete
  | cons c cs =>
    have ends := follows c rfl
    refine run_number_stop complete (next_ends complete ends) ?_
    rw [ends.not_numeric.1, Bool.and_false]

theorem numeric_of_start {p : NumberStage × List Char}
    (next : NumberStage.start.next [] c = some p) : c = '-' ∨ c.isDigit := by
  rcases Decidable.em (c = '-' ∨ c.isDigit) with numeric | other
  · exact numeric
  · have zero : c ≠ '0' := fun zero => (not_or.mp other).2 (by rw [zero]; rfl)
    rw [NumberStage.next, if_neg (not_or.mp other).1, NumberStage.next.zeroOrDigit, if_neg zero,
      NumberStage.next.digit, if_neg (not_or.mp other).2] at next
    cases next

/-- The first character of a number begins no other value. -/
theorem startValue_number {p : NumberStage × List Char}
    (next : NumberStage.start.next [] c = some p) (m : Machine) :
    m.startValue c = .ok { m with mode := .number p.1 p.2 } := by
  have others : isSpace c = false ∧ c ≠ 'n' ∧ c ≠ 't' ∧ c ≠ 'f' ∧ c ≠ '"' ∧ c ≠ '[' ∧
      c ≠ '\x7b' := by
    rcases numeric_of_start next with rfl | digit
    · decide
    · refine ⟨not_isSpace_of_isDigit digit, ?_, ?_, ?_, ?_, ?_, ?_⟩ <;>
        exact ne_of_isDigit digit rfl
  obtain ⟨space, n, t, f, quote, array, object⟩ := others
  rw [Machine.startValue, if_neg (by rw [space]; decide), if_neg n, if_neg t, if_neg f,
    if_neg quote, if_neg array, if_neg object, next]

/-- A spelling has a first character. -/
theorem Numeral.Spelled.first {n : Numeral} (spelled : n.Spelled cs) :
    ∃ c rest p, cs = c :: rest ∧ NumberStage.start.next [] c = some p := by
  obtain ⟨stage, scanned, complete⟩ := Numeral.scan_spelled spelled
  cases cs with
  | nil =>
    cases (Prod.mk.inj (Option.some.inj scanned)).1
    cases complete
  | cons c rest =>
    obtain ⟨p, next, -⟩ := Option.bind_eq_some_iff.mp scanned
    exact ⟨c, rest, p, rfl, next⟩

/-- A spelling is read to the text of its numeral. -/
theorem run_numeral {n : Numeral} (spelled : n.Spelled cs) {tail : List Char}
    (follows : Follows tail) :
    (Machine.mk stack old .value).run (cs ++ tail) = resume stack old (.number n.text) tail := by
  obtain ⟨stage, scanned, complete⟩ := Numeral.scan_spelled spelled
  obtain ⟨c, rest, p, rfl, next⟩ := spelled.first
  rw [NumberStage.scan, next, Option.bind_some] at scanned
  rw [List.cons_append, Machine.run_cons, Machine.feed, startValue_number next]
  refine (run_scan scanned tail).trans ((run_after_number complete follows).trans ?_)
  rw [numberText, List.reverse_reverse, Numeral.text]

/-- What has been read is a number if it ends here. -/
theorem Reached.ended {read : List Char} (reached : Reached stage read text.reverse)
    (complete : stage.isComplete)
    (resumed : resume stack old (.number (numberText text)) cs = some r) :
    ∃ (n : Numeral) (more tail : List Char), cs = more ++ tail ∧ n.Spelled (read ++ more) ∧
      resume stack old (.number n.text) tail = some r := by
  obtain ⟨n, spelled, kept⟩ := reached.numeral complete
  exact ⟨n, [], cs, rfl, by rwa [List.append_nil], by rwa [kept]⟩

/-- What is read as a number starts with the spelling of one. -/
theorem run_number_some {read : List Char} (reached : Reached stage read text.reverse)
    (done : (Machine.mk stack old (.number stage text)).run cs = some r) :
    ∃ (n : Numeral) (more tail : List Char), cs = more ++ tail ∧ n.Spelled (read ++ more) ∧
      resume stack old (.number n.text) tail = some r := by
  induction cs generalizing stage text read with
  | nil =>
    by_cases complete : stage.isComplete
    · exact reached.ended complete ((run_number_nil complete).symm.trans done)
    · simp only [Machine.run_nil, Machine.finish, complete] at done
      cases done
  | cons c cs ih =>
    cases next : stage.next text c with
    | some p =>
      simp only [Machine.run_cons, Machine.feed, Machine.feedNumber, next] at done
      obtain ⟨n, more, tail, rfl, spelled, resumed⟩ := ih (reached.next next) done
      refine ⟨n, c :: more, tail, rfl, ?_, resumed⟩
      rwa [List.append_assoc] at spelled
    | none =>
      -- The number ends here, unless a digit comes after a leading zero.
      by_cases complete : stage.isComplete ∧ (stage == .zero && c.isDigit) = false
      · exact reached.ended complete.1
          ((run_number_stop complete.1 next complete.2).symm.trans done)
      · rw [← Bool.not_eq_true', ← Bool.and_eq_true] at complete
        simp only [Machine.run_cons, Machine.feed, Machine.feedNumber, next, complete] at done
        cases done

end Json

end QuoteKeeper
