import QuoteKeeper.Decimal.Numeral
import QuoteKeeper.Proofs.Decimal.Middle

/-!
# Reading digits

Digits are read from the left for as long as they fit, and what is left over rounds. If the number
that they spell is that of a decimal, nothing but zeros is left over, so it is read exactly; a whole
part that is too large is an error. Nothing but digits, points and underscores is ever read.
-/

namespace QuoteKeeper

namespace Decimal

variable {ds : List Char} {c s : Nat}

/-- The number that digits spell when they continue a number. -/
def natural (c : Nat) (ds : List Char) : Nat :=
  ds.foldl (fun n d => n * 10 + (d.toNat - '0'.toNat)) c

theorem natural_nil (c : Nat) : natural c [] = c := rfl

theorem natural_cons (c : Nat) (d : Char) (ds : List Char) :
    natural c (d :: ds) = natural (c * 10 + (d.toNat - '0'.toNat)) ds :=
  List.foldl_cons

theorem natural_append (c : Nat) (as bs : List Char) :
    natural c (as ++ bs) = natural (natural c as) bs :=
  List.foldl_append

theorem digit_lt {d : Char} (digit : d.isDigit) : d.toNat - '0'.toNat < 10 := by
  simp only [Char.isDigit, Bool.and_eq_true, decide_eq_true_eq] at digit
  have most : d.toNat ≤ '9'.toNat := digit.2
  have nine : '9'.toNat - '0'.toNat < 10 := by decide
  omega

theorem digit?_of_isDigit {d : Char} (digit : d.isDigit) :
    Text.digit? d = some (d.toNat - '0'.toNat) := if_pos digit

/-- Each digit is a place. -/
theorem natural_eq (c : Nat) (ds : List Char) :
    natural c ds = c * 10 ^ ds.length + natural 0 ds := by
  induction ds generalizing c with
  | nil => simp [natural_nil]
  | cons d ds ih =>
    rw [natural_cons, natural_cons, ih, ih (0 * 10 + _), List.length_cons, pow_succ]
    ring

theorem natural_lt (digits : ∀ d ∈ ds, d.isDigit) : natural 0 ds < 10 ^ ds.length := by
  induction ds with
  | nil => simp [natural_nil]
  | cons d ds ih =>
    have less := ih fun e mem => digits e (List.mem_cons_of_mem d mem)
    have small := digit_lt (digits d List.mem_cons_self)
    rw [natural_cons, natural_eq, List.length_cons, pow_succ]
    calc (0 * 10 + (d.toNat - '0'.toNat)) * 10 ^ ds.length + natural 0 ds
        < (0 * 10 + (d.toNat - '0'.toNat)) * 10 ^ ds.length + 10 ^ ds.length := by omega
      _ = (d.toNat - '0'.toNat + 1) * 10 ^ ds.length := by ring
      _ ≤ 10 * 10 ^ ds.length := Nat.mul_le_mul_right _ small
      _ = 10 ^ ds.length * 10 := mul_comm _ _

theorem le_natural (c : Nat) (ds : List Char) : c ≤ natural c ds := by
  rw [natural_eq]
  exact Nat.le_add_right_of_le (Nat.le_mul_of_pos_right c (by positivity))

/-! ### The whole part -/

/-- A whole part that fits is read. -/
theorem readDigits_whole (digits : ∀ d ∈ ds, d.isDigit) {seen : Bool}
    (some : seen = true ∨ ds ≠ []) (fits : natural c ds ≤ limit) (rest : List Char) :
    readDigits false seen ⟨c, 0⟩ (ds ++ rest) = readDigits false true ⟨natural c ds, 0⟩ rest := by
  induction ds generalizing c seen with
  | nil =>
    cases some.resolve_right (not_not.mpr rfl)
    rfl
  | cons d ds ih =>
    rw [natural_cons] at fits ⊢
    have inside := (le_natural _ ds).trans fits
    rw [List.cons_append, readDigits]
    simp only [Bool.false_and, digit?_of_isDigit (digits d List.mem_cons_self), inside]
    exact ih (fun e mem => digits e (List.mem_cons_of_mem d mem)) (.inl rfl) fits

/-- A whole part that does not fit is an error. -/
theorem readDigits_large (digits : ∀ d ∈ ds, d.isDigit) {seen : Bool} (fits : c ≤ limit)
    (large : limit < natural c ds) (rest : List Char) :
    readDigits false seen ⟨c, 0⟩ (ds ++ rest) = .error .tooManyDigits := by
  induction ds generalizing c seen with
  | nil => exact absurd fits (not_le.mpr large)
  | cons d ds ih =>
    rw [natural_cons] at large
    rw [List.cons_append, readDigits]
    simp only [Bool.false_and, digit?_of_isDigit (digits d List.mem_cons_self)]
    by_cases inside : c * 10 + (d.toNat - '0'.toNat) ≤ limit
    · simp only [inside]
      exact ih (fun e mem => digits e (List.mem_cons_of_mem d mem)) inside large
    · simp only [inside]
      rfl

/-! ### Digits after the point -/

/-- What has one place less than all that are read is a multiple of their power. -/
theorem zero_of_whole (digits : ∀ d ∈ ds, d.isDigit) {m : Nat}
    (whole : natural c ds = m * 10 ^ ds.length) : natural 0 ds = 0 := by
  have less := natural_lt digits
  rw [natural_eq] at whole
  have multiple : 10 ^ ds.length ∣ natural 0 ds :=
    (Nat.dvd_add_right (Dvd.intro_left c rfl)).mp (whole ▸ Dvd.intro_left m rfl)
  exact Nat.eq_zero_of_dvd_of_lt multiple less

/-- Digits that come after all places, or that make the coefficient too large, are zeros. -/
theorem rest_eq_zero {d : Char} (digits : ∀ e ∈ d :: ds, e.isDigit)
    (representable : Representable ((natural c (d :: ds) : ℚ) / 10 ^ (s + (d :: ds).length)))
    (full : s = places ∨ limit < c * 10 + (d.toNat - '0'.toNat)) : natural 0 (d :: ds) = 0 := by
  obtain ⟨r, value⟩ := representable
  have nonneg : 0 ≤ r.value := by
    rw [value]
    positivity
  rw [value_of_nonneg nonneg] at value
  -- With one more place than have been read, the coefficient of `r` would be beyond the limit.
  have fits : r.scale ≤ s := by
    by_contra coarse
    have more : s + 1 ≤ r.scale := not_le.mp coarse
    rcases full with all | large
    · have most := r.scale_le
      rw [all, places] at more
      omega
    · have inside := magnitude_mul_pow_le r more
      have least : ((c * 10 + (d.toNat - '0'.toNat) : ℕ) : ℚ) ≤ r.magnitude * 10 ^ (s + 1) := by
        have power : (10 : ℚ) ^ (s + (d :: ds).length) = 10 ^ ds.length * 10 ^ (s + 1) := by
          rw [List.length_cons]
          ring
        rw [value, power, ← div_div, div_mul_cancel₀ _ (by positivity), natural_cons,
          le_div_iff₀ (by positivity), natural_eq]
        push_cast
        exact le_add_of_nonneg_right (by positivity)
      exact absurd (least.trans inside) (not_le.mpr (by exact_mod_cast large))
  refine zero_of_whole digits (c := c) (m := r.coefficient * 10 ^ (s - r.scale)) ?_
  have same := magnitude_mul_pow r fits
  rw [value, pow_add, mul_comm ((10 : ℚ) ^ s), ← div_div, div_mul_cancel₀ _ (by positivity),
    div_eq_iff (by positivity)] at same
  exact_mod_cast same

theorem close_zeros {d : Char} (digits : ∀ e ∈ d :: ds, e.isDigit) (zero : natural 0 (d :: ds) = 0)
    (read : Digits) : read.close (d :: ds) = .ok read := by
  have digit := digits d List.mem_cons_self
  have first : d.toNat - '0'.toNat = 0 := by
    rw [natural_cons] at zero
    have least := le_natural (0 * 10 + (d.toNat - '0'.toNat)) ds
    omega
  have rest : ds.find? (fun c => !c.isDigit && c != '_') = none := by
    rw [List.find?_eq_none]
    intro e mem
    simp [digits e (List.mem_cons_of_mem d mem)]
  have notBar : d ≠ '_' := by
    rintro rfl
    revert digit
    decide
  rw [Digits.close, if_neg notBar, Digits.close.roundOn, digit?_of_isDigit digit, first]
  simp only [Digits.round, Nat.zero_lt_succ, if_true, Digits.dropRest, rest]
  rfl

/-- The number of a decimal is read exactly. -/
theorem readDigits_fraction (digits : ∀ d ∈ ds, d.isDigit) (short : c ≤ limit) (few : s ≤ places)
    (representable : Representable ((natural c ds : ℚ) / 10 ^ (s + ds.length))) :
    ∃ read, readDigits true true ⟨c, s⟩ ds = .ok read ∧ read.coefficient ≤ limit ∧
      read.scale ≤ places ∧
      (read.coefficient : ℚ) / 10 ^ read.scale = (natural c ds : ℚ) / 10 ^ (s + ds.length) := by
  induction ds generalizing c s with
  | nil => exact ⟨⟨c, s⟩, rfl, short, few, rfl⟩
  | cons d ds ih =>
    have digit := digits d List.mem_cons_self
    have stop (full : s = places ∨ limit < c * 10 + (d.toNat - '0'.toNat)) :
        (Digits.mk c s).close (d :: ds) = .ok ⟨c, s⟩ ∧
          (c : ℚ) / 10 ^ s = (natural c (d :: ds) : ℚ) / 10 ^ (s + (d :: ds).length) := by
      have zero := rest_eq_zero digits representable full
      refine ⟨close_zeros digits zero ⟨c, s⟩, ?_⟩
      rw [natural_eq, zero, pow_add]
      push_cast
      field_simp
      ring
    rw [readDigits]
    by_cases all : s = places
    · obtain ⟨closed, value⟩ := stop (.inl all)
      refine ⟨⟨c, s⟩, ?_, short, few, value⟩
      simp only [all, beq_self_eq_true, Bool.and_self, if_true]
      exact all ▸ closed
    · have more : s + 1 ≤ places := Nat.lt_of_le_of_ne few all
      have room : (true && s == places) = false := by simpa using all
      simp only [room, digit?_of_isDigit digit]
      by_cases inside : c * 10 + (d.toNat - '0'.toNat) ≤ limit
      · have shape : s + (d :: ds).length = s + 1 + ds.length := by
          rw [List.length_cons]
          omega
        rw [shape, natural_cons] at representable ⊢
        simp only [inside]
        exact ih (fun e mem => digits e (List.mem_cons_of_mem d mem)) inside more representable
      · obtain ⟨closed, value⟩ := stop (.inr (not_le.mp inside))
        refine ⟨⟨c, s⟩, ?_, short, few, value⟩
        simp only [inside]
        exact closed

/-! ### With a sign and a point -/

variable {whole fraction cs : List Char} {negative : Bool}

/-- A sign, a whole part and a fraction, if there is one. -/
def plainChars (negative : Bool) (whole fraction : List Char) : List Char :=
  (if negative then ['-'] else []) ++
    (whole ++ if fraction = [] then [] else '.' :: fraction)

/-- The number that they spell. -/
def plainValue (negative : Bool) (whole fraction : List Char) : ℚ :=
  withSign negative ((natural 0 (whole ++ fraction) : ℚ) / 10 ^ fraction.length)

theorem withSign_representable {x : ℚ} (representable : Representable (withSign negative x)) :
    Representable x := by
  obtain ⟨r, value⟩ := representable
  cases negative with
  | false => exact ⟨r, value⟩
  | true =>
    refine ⟨r.neg, ?_⟩
    rw [value_neg, value, withSign, if_pos rfl, neg_neg]

theorem ofParts?_isSome (negative : Bool) (short : c ≤ limit) (few : s ≤ places) :
    ∃ a, ofParts? negative c s = some a := ⟨_, dif_pos ⟨short, few⟩⟩

/-- The sign of a zero does not matter. -/
theorem withSign_zero (negative : Bool) (c s : Nat) :
    withSign (negative && c != 0) ((c : ℚ) / 10 ^ s) = withSign negative ((c : ℚ) / 10 ^ s) := by
  by_cases zero : c = 0
  · cases negative <;> simp [zero, withSign]
  · rw [bne_iff_ne.mpr zero, Bool.and_true]

theorem splitSign_digit {d : Char} (digit : d.isDigit) (rest : List Char) :
    splitSign (d :: rest) = (false, d :: rest) := by
  rw [splitSign]
  · rintro _ ⟨rfl, -⟩
    revert digit
    decide
  · rintro _ ⟨rfl, -⟩
    revert digit
    decide

/-- What is left after the sign is read as digits. -/
theorem readPlain_eq (digits : ∀ d ∈ whole, d.isDigit) (begun : whole ≠ []) (rest : List Char) :
    readPlain ((if negative then ['-'] else []) ++ (whole ++ rest)) =
      (readDigits false false ⟨0, 0⟩ (whole ++ rest) >>= fun d =>
        match ofParts? (negative && d.coefficient != 0) d.coefficient d.scale with
        | some a => .ok a
        | none => .error .tooLarge) := by
  obtain ⟨d, ds, rfl⟩ := List.exists_cons_of_ne_nil begun
  cases negative with
  | true => rfl
  | false =>
    rw [readPlain, if_neg (by simp)]
    exact congrArg
      (fun p : Bool × List Char => readDigits false false ⟨0, 0⟩ p.2 >>= fun d =>
        match ofParts? (p.1 && d.coefficient != 0) d.coefficient d.scale with
        | some a => .ok a
        | none => .error .tooLarge)
      (splitSign_digit (digits d List.mem_cons_self) (ds ++ rest))

/-- The point, if there is one, is followed by digits alone. -/
theorem readDigits_point (n : Nat) (fraction : List Char) :
    readDigits false true ⟨n, 0⟩ (if fraction = [] then [] else '.' :: fraction) =
      readDigits true true ⟨n, 0⟩ fraction := by
  cases fraction with
  | nil => rfl
  | cons d ds =>
    rw [if_neg (List.cons_ne_nil d ds), readDigits]
    rfl

/-- The number of a decimal is read exactly, digit by digit. -/
theorem readPlain_exact (digits : ∀ d ∈ whole, d.isDigit) (begun : whole ≠ [])
    (digits' : ∀ d ∈ fraction, d.isDigit)
    (representable : Representable (plainValue negative whole fraction)) :
    ∃ a, readPlain (plainChars negative whole fraction) = .ok a ∧
      a.value = plainValue negative whole fraction := by
  have fits := withSign_representable representable
  rw [natural_append] at fits
  have small : natural 0 whole ≤ limit := by
    obtain ⟨r, value⟩ := fits
    have most := r.value_le_limit
    rw [value, div_le_iff₀ (by positivity), natural_eq] at most
    have least : natural 0 whole * 10 ^ fraction.length ≤ limit * 10 ^ fraction.length :=
      (Nat.le_add_right _ _).trans (by exact_mod_cast most)
    exact Nat.le_of_mul_le_mul_right least (by positivity)
  have placed := Nat.zero_add fraction.length
  rw [← placed] at fits
  obtain ⟨d, read, short, few, value⟩ := readDigits_fraction digits' small (Nat.zero_le _) fits
  obtain ⟨a, part⟩ := ofParts?_isSome (negative && d.coefficient != 0) short few
  refine ⟨a, ?_, ?_⟩
  · rw [plainChars, readPlain_eq digits begun, readDigits_whole digits (.inr begun) small,
      readDigits_point, read]
    simp only [bind, Except.bind, part]
  · rw [ofParts?_value part, withSign_zero, value, placed, plainValue, natural_append]

/-- A whole part that is too large is an error whatever follows it. -/
theorem readPlain_large (negative : Bool) (digits : ∀ d ∈ whole, d.isDigit) (begun : whole ≠ [])
    (large : limit < natural 0 whole) (rest : List Char) :
    readPlain ((if negative then ['-'] else []) ++ (whole ++ rest)) = .error .tooManyDigits := by
  rw [readPlain_eq digits begun, readDigits_large digits (Nat.zero_le _) large]
  rfl

/-! ### Characters that are never read -/

theorem dropRest_chars {d r : Digits} (read : d.dropRest cs = .ok r) :
    ∀ c ∈ cs, c.isDigit ∨ c = '_' := by
  rw [Digits.dropRest] at read
  split at read
  next => cases read
  next none =>
    intro c mem
    simpa [or_iff_not_imp_left] using List.find?_eq_none.mp none c mem

theorem roundOn_chars {d r : Digits} {c : Char} (read : Digits.close.roundOn d c cs = .ok r) :
    c.isDigit ∧ ∀ c ∈ cs, c.isDigit ∨ c = '_' := by
  rw [Digits.close.roundOn, Text.digit?] at read
  split at read
  next none => cases read
  next n found =>
    cases rounded : d.round n with
    | error e =>
      rw [rounded] at read
      cases read
    | ok d' =>
      rw [rounded] at read
      refine ⟨?_, dropRest_chars read⟩
      by_contra other
      rw [if_neg other] at found
      cases found

theorem close_chars {d r : Digits} (read : d.close cs = .ok r) :
    ∀ c ∈ cs, c.isDigit ∨ c = '_' := by
  cases cs with
  | nil => simp
  | cons c cs =>
    rw [Digits.close] at read
    split at read
    next bar =>
      refine List.forall_mem_cons.mpr ⟨.inr bar, ?_⟩
      split at read
      next => exact dropRest_chars read
      next =>
        have bars : ∀ e ∈ cs.takeWhile (· = '_'), e.isDigit ∨ e = '_' := fun e mem =>
          .inr (by simpa using List.all_eq_true.mp List.all_takeWhile e mem)
        rw [← List.takeWhile_append_dropWhile (p := fun e => decide (e = '_')) (l := cs)]
        refine List.forall_mem_append.mpr ⟨bars, ?_⟩
        split at read
        next none =>
          rw [none]
          simp
        next e after more =>
          rw [more]
          obtain ⟨digit, rest⟩ := roundOn_chars read
          exact List.forall_mem_cons.mpr ⟨.inl digit, rest⟩
    next =>
      obtain ⟨digit, rest⟩ := roundOn_chars read
      exact List.forall_mem_cons.mpr ⟨.inl digit, rest⟩

theorem readDigits_chars {point seen : Bool} {d r : Digits}
    (read : readDigits point seen d cs = .ok r) : ∀ c ∈ cs, c.isDigit ∨ c = '.' ∨ c = '_' := by
  have closed {cs : List Char} {d : Digits} (read : d.close cs = .ok r) :
      ∀ c ∈ cs, c.isDigit ∨ c = '.' ∨ c = '_' :=
    fun c mem => (close_chars read c mem).imp_right .inr
  induction cs generalizing point seen d with
  | nil => simp
  | cons c cs ih =>
    rw [readDigits] at read
    split at read
    next => exact closed read
    next =>
      split at read
      next n found =>
        have digit : c.isDigit := by
          by_contra other
          rw [Text.digit?, if_neg other] at found
          cases found
        split at read
        next => exact List.forall_mem_cons.mpr ⟨.inl digit, ih read⟩
        next =>
          split at read
          next => exact closed read
          next => cases read
      next =>
        split at read
        next dot =>
          have isPoint := (Bool.and_eq_true_iff.mp dot).1
          exact List.forall_mem_cons.mpr ⟨.inr (.inl (of_decide_eq_true isPoint)), ih read⟩
        next =>
          split at read
          next bar =>
            have isBar := (Bool.and_eq_true_iff.mp bar).1
            exact List.forall_mem_cons.mpr ⟨.inr (.inr (of_decide_eq_true isBar)), ih read⟩
          next => cases read

theorem mem_splitSign {mark : Char} (isMark : isExponentMark mark) (mem : mark ∈ cs) :
    mark ∈ (splitSign cs).2 := by
  unfold splitSign
  split
  next rest =>
    refine (List.mem_cons.mp mem).resolve_left ?_
    rintro rfl
    revert isMark
    decide
  next rest =>
    refine (List.mem_cons.mp mem).resolve_left ?_
    rintro rfl
    revert isMark
    decide
  next => exact mem

/-- A text with an exponent mark is not read without exponent. -/
theorem readPlain_mark {mark : Char} (isMark : isExponentMark mark) (mem : mark ∈ cs) :
    ∃ e, readPlain cs = .error e := by
  cases read : readPlain cs with
  | error e => exact ⟨e, rfl⟩
  | ok a =>
    exfalso
    rw [readPlain] at read
    split at read
    next => cases read
    next =>
      cases digits : readDigits false false ⟨0, 0⟩ (splitSign cs).2 with
      | error e =>
        simp only [digits] at read
        cases read
      | ok d =>
        rcases readDigits_chars digits mark (mem_splitSign isMark mem) with digit | rfl | rfl
        · have other : mark.isDigit = false := by
            rw [isExponentMark, Bool.or_eq_true, decide_eq_true_eq, decide_eq_true_eq] at isMark
            rcases isMark with rfl | rfl <;> decide
          rw [digit] at other
          cases other
        · revert isMark
          decide
        · revert isMark
          decide

end Decimal

end QuoteKeeper
