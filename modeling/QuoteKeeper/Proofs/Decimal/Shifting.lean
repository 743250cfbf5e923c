import QuoteKeeper.Proofs.Decimal.Reading

/-!
# Reading an exponent

An exponent moves the point. To the right it multiplies by powers of ten, which is exact or too
large; to the left it adds places, and drops nothing but zeros if the result is the number of a
decimal. It can be at most as large as a decimal has places, whatever the coefficient.
-/

namespace QuoteKeeper

namespace Decimal

variable {a b : Decimal} {n c s : Nat} {ds m : List Char} {negative : Bool} {x y : ℚ}

/-- What can be written is not rounded. -/
theorem Rounds.exact (rounds : Rounds x y) (representable : Representable x) : y = x := by
  obtain ⟨r, rfl⟩ := representable
  exact le_antisymm (rounds.atMost r le_rfl) (rounds.atLeast r le_rfl)

theorem representable_withSign (representable : Representable x) (negative : Bool) :
    Representable (withSign negative x) := by
  obtain ⟨r, rfl⟩ := representable
  cases negative with
  | false => exact ⟨r, rfl⟩
  | true => exact ⟨r.neg, value_neg r⟩

theorem withSign_mul_pow (negative : Bool) (x : ℚ) (n : Nat) :
    withSign negative x * 10 ^ n = withSign negative (x * 10 ^ n) := by
  cases negative with
  | false => rfl
  | true => exact neg_mul x _

theorem withSign_div_pow (negative : Bool) (x : ℚ) (n : Nat) :
    withSign negative x / 10 ^ n = withSign negative (x / 10 ^ n) := by
  cases negative with
  | false => rfl
  | true => exact neg_div _ x

/-! ### To the left -/

theorem shiftDown_large (large : places < n) : a.shiftDown n = .error (.exponentTooLarge n) :=
  if_pos large

/-- What has more places than there are ends in zeros if it is the number of a decimal. -/
theorem zeros_of_representable (representable : Representable ((c : ℚ) / 10 ^ s)) :
    ∃ k, c = k * 10 ^ (s - places) := by
  rcases Nat.le_total s places with few | many
  · exact ⟨c, by rw [Nat.sub_eq_zero_of_le few, pow_zero, mul_one]⟩
  · obtain ⟨r, value⟩ := representable
    have nonneg : 0 ≤ r.value := by
      rw [value]
      positivity
    have whole := magnitude_mul_pow r r.scale_le
    rw [value_of_nonneg nonneg] at value
    refine ⟨r.coefficient * 10 ^ (28 - r.scale), ?_⟩
    have power : (10 : ℚ) ^ s = 10 ^ (s - places) * 10 ^ 28 := by
      rw [← pow_add, ← places, Nat.sub_add_cancel many]
    rw [value, power, ← div_div, div_mul_cancel₀ _ (by positivity), div_eq_iff (by positivity)]
      at whole
    exact_mod_cast whole

/-- Half of the last place that is dropped rounds no multiple of it up. -/
theorem add_half_div (k : Nat) {drop : Nat} (positive : 0 < drop) :
    (k * 10 ^ drop + 5 * 10 ^ (drop - 1)) / 10 ^ drop = k := by
  have half : 5 * 10 ^ (drop - 1) < 10 ^ drop := by
    obtain ⟨d, rfl⟩ := Nat.exists_eq_add_one_of_ne_zero positive.ne'
    rw [Nat.add_sub_cancel, pow_succ]
    have power : 0 < 10 ^ d := by positivity
    omega
  rw [mul_comm, Nat.mul_add_div (by positivity), Nat.div_eq_of_lt half, Nat.add_zero]

/-- Places are added, and nothing but zeros dropped. -/
theorem shiftDown_exact (few : n ≤ places) (representable : Representable (a.value / 10 ^ n)) :
    ∃ b, a.shiftDown n = .ok b ∧ b.value = a.value / 10 ^ n := by
  have shifted : a.value / 10 ^ n =
      withSign a.negative ((a.coefficient : ℚ) / 10 ^ (a.scale + n)) := by
    rw [value_eq_withSign, withSign_div_pow, magnitude, div_div, ← pow_add]
  rw [shifted] at representable ⊢
  obtain ⟨k, multiple⟩ := zeros_of_representable (withSign_representable representable)
  generalize dropped : a.scale + n - places = drop at multiple
  have kept : (if drop = 0 then a.coefficient
      else (a.coefficient + 5 * Nat.pow 10 (drop - 1)) / Nat.pow 10 drop) = k := by
    split
    next none => rw [multiple, none, pow_zero, mul_one]
    next some =>
      rw [multiple]
      exact add_half_div k (Nat.pos_of_ne_zero some)
  have short : k ≤ limit := by
    have most : k ≤ a.coefficient := multiple ▸ Nat.le_mul_of_pos_right k (by positivity)
    exact most.trans a.coefficient_le
  obtain ⟨b, part⟩ := ofParts?_isSome (s := a.scale + n - drop) a.negative short (by omega)
  refine ⟨b, ?_, ?_⟩
  · simp only [shiftDown, if_neg (not_lt.mpr few), dropped, kept, part]
  · rw [ofParts?_value part, multiple]
    congr 1
    have power : (10 : ℚ) ^ (a.scale + n) = 10 ^ (a.scale + n - drop) * 10 ^ drop := by
      rw [← pow_add]
      congr 1
      omega
    rw [power]
    push_cast
    rw [mul_div_mul_right _ _ (by positivity)]

/-! ### To the right -/

theorem tenPower?_eq_some {t : Decimal} (found : tenPower? n = some t) :
    t.value = 10 ^ n ∧ t.magnitude = 10 ^ n := by
  obtain ⟨-, coefficient, scale⟩ := ofParts?_eq_some found
  have value := ofParts?_value found
  rw [magnitude, coefficient, scale]
  simpa [withSign] using value

theorem abs_withSign (negative : Bool) (x : ℚ) : |withSign negative x| = |x| := by
  cases negative with
  | false => rfl
  | true => exact abs_neg x

theorem abs_value (a : Decimal) : |a.value| = a.magnitude := by
  rw [value_eq_withSign, abs_withSign, abs_of_nonneg a.magnitude_nonneg]

/-- A coefficient with zeros can be written if the whole part is not too large. -/
theorem representable_mul_pow (a : Decimal) (less : a.magnitude * 10 ^ n < limit + 1) :
    Representable (a.value * 10 ^ n) := by
  rw [value_eq_withSign, withSign_mul_pow]
  refine representable_withSign ?_ _
  have short := a.coefficient_le
  rw [magnitude] at less ⊢
  rcases Nat.le_total n a.scale with few | many
  · have power : (10 : ℚ) ^ a.scale = 10 ^ (a.scale - n) * 10 ^ n := by
      rw [← pow_add, Nat.sub_add_cancel few]
    rw [power, ← div_div, div_mul_cancel₀ _ (by positivity)]
    exact representable_div short ((Nat.sub_le _ _).trans a.scale_le)
  · have power : (10 : ℚ) ^ n = 10 ^ (n - a.scale) * 10 ^ a.scale := by
      rw [← pow_add, Nat.sub_add_cancel many]
    have whole : (a.coefficient : ℚ) / 10 ^ a.scale * 10 ^ n =
        ((a.coefficient * 10 ^ (n - a.scale) : ℕ) : ℚ) / 10 ^ 0 := by
      rw [power]
      push_cast
      field_simp
    rw [whole, pow_zero, div_one] at less
    rw [whole]
    exact representable_div (Nat.lt_succ_iff.mp (by exact_mod_cast less)) (Nat.zero_le _)

/-- What can be written with its point further left can be written, or its whole part is too
large. -/
theorem representable_or_large {whole fraction : List Char} (digits : ∀ d ∈ fraction, d.isDigit)
    (representable : Representable (plainValue negative whole fraction / 10 ^ n)) :
    Representable (plainValue negative whole fraction) ∨ limit < natural 0 whole := by
  obtain ⟨r, value⟩ := representable
  have shifted : plainValue negative whole fraction = r.value * 10 ^ n := by
    rw [value, div_mul_cancel₀ _ (by positivity)]
  rcases lt_or_ge (r.magnitude * 10 ^ n) (limit + 1) with less | more
  · exact .inl (shifted ▸ representable_mul_pow r less)
  · right
    have size : r.magnitude * 10 ^ n =
        (natural 0 (whole ++ fraction) : ℚ) / 10 ^ fraction.length := by
      rw [← abs_value, ← abs_of_pos (show (0 : ℚ) < 10 ^ n by positivity), ← abs_mul, ← shifted,
        plainValue, abs_withSign, abs_of_nonneg (by positivity)]
    rw [size, le_div_iff₀ (by positivity)] at more
    have least : (limit + 1) * 10 ^ fraction.length ≤ natural 0 (whole ++ fraction) := by
      exact_mod_cast more
    rw [natural_append, natural_eq] at least
    have small := natural_lt digits
    have below : (limit + 1) * 10 ^ fraction.length <
        (natural 0 whole + 1) * 10 ^ fraction.length := by
      rw [Nat.add_mul (natural 0 whole), one_mul]
      omega
    exact Nat.lt_of_add_lt_add_right (Nat.lt_of_mul_lt_mul_right below)

theorem magnitude_mul (a b : Decimal) :
    a.magnitude * b.magnitude =
      ((a.coefficient * b.coefficient : ℕ) : ℚ) / 10 ^ (a.scale + b.scale) := by
  rw [magnitude, magnitude, pow_add]
  push_cast
  field_simp

/-- A product that is found is not too large. -/
theorem mul?_lt {t r : Decimal} (found : mul? a t = some r) :
    a.magnitude * t.magnitude < limit + 1 := by
  have room : (0 : ℚ) < limit + 1 := by positivity
  rw [mul?] at found
  split at found
  next nothing =>
    have product : a.magnitude * t.magnitude = 0 := by
      rw [mul_eq_zero]
      refine (Bool.or_eq_true_iff.mp nothing).imp ?_ ?_ <;>
      · intro zero
        rw [magnitude, of_decide_eq_true (p := _ = _) zero]
        simp
    rwa [product]
  next =>
    split at found
    next tiny =>
      obtain ⟨short, long⟩ := Bool.and_eq_true_iff.mp tiny
      have near := (abs_le.mp (mul_tiny short (of_decide_eq_true long)).near).2
      rw [← magnitude_mul, Nat.cast_zero, sub_zero] at near
      have least := mul_nonneg a.magnitude_nonneg t.magnitude_nonneg
      have power : (1 : ℚ) ≤ 10 ^ places := one_le_pow₀ (by norm_num)
      have most : a.magnitude * t.magnitude ≤ a.magnitude * t.magnitude * 10 ^ places :=
        le_mul_of_one_le_right least power
      have limits : (0 : ℚ) ≤ limit := Nat.cast_nonneg _
      linarith
    next =>
      obtain ⟨product, fitted, -⟩ := Option.bind_eq_some_iff.mp found
      rw [magnitude_mul]
      exact fit_lt fitted

/-- A product with a power of ten is exact. -/
theorem mul?_tenPower {t : Decimal} (power : tenPower? n = some t) (found : mul? a t = some b) :
    b.value = a.value * 10 ^ n := by
  obtain ⟨value, magnitude⟩ := tenPower?_eq_some power
  have less := mul?_lt found
  rw [magnitude] at less
  have rounds := mul?_rounds found
  rw [value] at rounds
  exact rounds.exact (representable_mul_pow a less)

theorem mul?_tenPower_isSome {t : Decimal} (power : tenPower? n = some t)
    (within : a.magnitude * 10 ^ n ≤ b.magnitude) : ∃ r, mul? a t = some r := by
  refine mul?_isSome (c := b) ?_
  rw [(tenPower?_eq_some power).2]
  exact within

theorem dropPlaces_value (c s : Nat) :
    ((dropPlaces c s).1 : ℚ) / 10 ^ (dropPlaces c s).2 = (c : ℚ) / 10 ^ s ∧
      (dropPlaces c s).1 ≤ c ∧ (dropPlaces c s).2 ≤ s := by
  induction s generalizing c with
  | zero => exact ⟨rfl, le_rfl, le_rfl⟩
  | succ s ih =>
    rw [dropPlaces]
    split
    next zero =>
      obtain ⟨value, short, few⟩ := ih (c / 10)
      refine ⟨?_, short.trans (Nat.div_le_self c 10), few.trans (Nat.le_succ s)⟩
      have exactly : (c : ℚ) = (c / 10 : ℕ) * 10 := by
        exact_mod_cast (Nat.div_mul_cancel (Nat.dvd_of_mod_eq_zero zero)).symm
      rw [value, pow_succ, exactly, mul_div_mul_right _ _ (by norm_num)]
    next => exact ⟨rfl, le_rfl, le_rfl⟩

theorem shiftUp_large (large : places < n) : a.shiftUp n = .error (.exponentTooLarge n) := by
  have scale : ¬ n ≤ a.scale := fun le => by
    have most := a.scale_le
    rw [places] at large
    omega
  rw [shiftUp, if_neg scale, if_pos large]

theorem tenPower?_isSome (few : n ≤ places) : ∃ t, tenPower? n = some t :=
  ofParts?_isSome false ((Nat.pow_le_pow_right (by decide) few).trans (by decide)) (Nat.zero_le _)

/-- A product with a power of ten, in factors of at most `10 ^ 19`. -/
def raised? (a : Decimal) (n : Nat) : Option Decimal :=
  (tenPower? (Nat.min n 19)).bind fun t => (mul? a t).bind fun b =>
    if n - Nat.min n 19 = 0 then some b
    else (tenPower? (n - Nat.min n 19)).bind fun t => mul? b t

/-- The decimal without zeros at the end. -/
def trimmed? (c : Decimal) : Option Decimal :=
  ofParts? (c.negative && (dropPlaces c.coefficient c.scale).1 != 0)
    (dropPlaces c.coefficient c.scale).1 (dropPlaces c.coefficient c.scale).2

theorem shiftUp_eq (far : ¬ n ≤ a.scale) (few : n ≤ places) :
    a.shiftUp n = ((raised? a n).bind trimmed?).elim (.error .tooLarge) .ok := by
  have whole : (raised? a n).bind trimmed? = (do
      let b ← mul? a (← tenPower? (Nat.min n 19))
      let c ← if n - Nat.min n 19 = 0 then some b
        else mul? b (← tenPower? (n - Nat.min n 19))
      trimmed? c) := by
    rw [raised?]
    simp only [Option.bind_assoc, Option.bind_eq_bind]
    refine Option.bind_congr fun t _ => Option.bind_congr fun b _ => ?_
    split
    · rfl
    · exact Option.bind_assoc _ _ _
  rw [whole, shiftUp, if_neg far, if_neg (not_lt.mpr few)]
  dsimp only
  split
  next found => exact (congrArg (Option.elim · _ _) found).symm
  next found => exact (congrArg (Option.elim · _ _) found).symm

theorem trimmed?_exact (c : Decimal) : ∃ b, trimmed? c = some b ∧ b.value = c.value := by
  obtain ⟨value, short, few⟩ := dropPlaces_value c.coefficient c.scale
  obtain ⟨b, part⟩ := ofParts?_isSome (c.negative && (dropPlaces c.coefficient c.scale).1 != 0)
    (short.trans c.coefficient_le) (few.trans c.scale_le)
  refine ⟨b, part, ?_⟩
  rw [ofParts?_value part, withSign_zero, value, value_eq_withSign, magnitude]

theorem raised?_value {c : Decimal} (found : raised? a n = some c) :
    c.value = a.value * 10 ^ n := by
  obtain ⟨t, power, rest⟩ := Option.bind_eq_some_iff.mp found
  obtain ⟨b, product, rest⟩ := Option.bind_eq_some_iff.mp rest
  have first := mul?_tenPower power product
  have least : Nat.min n 19 ≤ n := Nat.min_le_left n 19
  split at rest
  next all =>
    cases rest
    rw [first]
    congr 2
    omega
  next =>
    obtain ⟨t', power', product'⟩ := Option.bind_eq_some_iff.mp rest
    rw [mul?_tenPower power' product', first, mul_assoc, ← pow_add, Nat.add_sub_cancel' least]

theorem magnitude_of_value {r : Decimal} (value : r.value = a.value * 10 ^ n) :
    r.magnitude = a.magnitude * 10 ^ n := by
  rw [← abs_value, value, abs_mul, abs_value, abs_of_nonneg (by positivity)]

theorem raised?_isSome (few : n ≤ places) (representable : Representable (a.value * 10 ^ n)) :
    ∃ c, raised? a n = some c := by
  obtain ⟨r, value⟩ := representable
  have least : Nat.min n 19 ≤ n := Nat.min_le_left n 19
  have sum : Nat.min n 19 + (n - Nat.min n 19) = n := by omega
  have size := magnitude_of_value value
  obtain ⟨t, power⟩ := tenPower?_isSome (least.trans few)
  obtain ⟨t', power'⟩ := tenPower?_isSome ((Nat.sub_le n (Nat.min n 19)).trans few)
  have within : a.magnitude * 10 ^ Nat.min n 19 ≤ r.magnitude := by
    rw [size]
    exact mul_le_mul_of_nonneg_left (pow_le_pow_right₀ (by norm_num) least) a.magnitude_nonneg
  obtain ⟨b, product⟩ := mul?_tenPower_isSome power within
  have first := magnitude_of_value (mul?_tenPower power product)
  have within' : b.magnitude * 10 ^ (n - Nat.min n 19) ≤ r.magnitude := by
    rw [first, mul_assoc, ← pow_add, sum, size]
  obtain ⟨c, product'⟩ := mul?_tenPower_isSome power' within'
  rw [raised?, power, Option.bind_some, product, Option.bind_some]
  split
  · exact ⟨b, rfl⟩
  · exact ⟨c, by rw [power', Option.bind_some, product']⟩

/-- What is shifted to the right is exact. -/
theorem shiftUp_value (found : a.shiftUp n = .ok b) : b.value = a.value * 10 ^ n := by
  by_cases near : n ≤ a.scale
  · rw [shiftUp, if_pos near] at found
    split at found
    next b' part =>
      cases found
      have power : (10 : ℚ) ^ a.scale = 10 ^ (a.scale - n) * 10 ^ n := by
        rw [← pow_add, Nat.sub_add_cancel near]
      rw [ofParts?_value part, value_eq_withSign, withSign_mul_pow, magnitude, power, ← div_div,
        div_mul_cancel₀ _ (by positivity)]
    next => cases found
  · rcases Nat.lt_or_ge places n with large | few
    · rw [shiftUp_large large] at found
      cases found
    · rw [shiftUp_eq near few] at found
      cases product : raised? a n with
      | none =>
        rw [product] at found
        cases found
      | some c =>
        obtain ⟨b', trimmed, value⟩ := trimmed?_exact c
        rw [product, Option.bind_some, trimmed] at found
        cases found
        rw [value, raised?_value product]

/-- What can be written is found. -/
theorem shiftUp_isOk (few : n ≤ places) (representable : Representable (a.value * 10 ^ n)) :
    ∃ b, a.shiftUp n = .ok b := by
  by_cases near : n ≤ a.scale
  · obtain ⟨b, part⟩ := ofParts?_isSome (s := a.scale - n) a.negative a.coefficient_le
      ((Nat.sub_le _ _).trans a.scale_le)
    refine ⟨b, ?_⟩
    rw [shiftUp, if_pos near, part]
  · obtain ⟨c, product⟩ := raised?_isSome few representable
    obtain ⟨b, trimmed, -⟩ := trimmed?_exact c
    refine ⟨b, ?_⟩
    rw [shiftUp_eq near few, product, Option.bind_some, trimmed, Option.elim_some]

/-! ### An exponent -/

theorem foldlM_digits (digits : ∀ d ∈ ds, d.isDigit) (n : Nat) :
    ds.foldlM (fun n d => (Text.digit? d).map (n * 10 + ·)) n = some (natural n ds) := by
  induction ds generalizing n with
  | nil => rfl
  | cons d ds ih =>
    rw [List.foldlM_cons, digit?_of_isDigit (digits d List.mem_cons_self), natural_cons]
    exact ih (fun e mem => digits e (List.mem_cons_of_mem d mem)) _

/-- Digits after a sign, without the sign or with a plus. -/
theorem naturalBelow?_digits (digits : ∀ d ∈ ds, d.isDigit) (begun : ds ≠ []) (bound : Nat) :
    Text.naturalBelow? bound ds = (if natural 0 ds < bound then some (natural 0 ds) else none) ∧
      Text.naturalBelow? bound ('+' :: ds) =
        if natural 0 ds < bound then some (natural 0 ds) else none := by
  have more : ds.isEmpty = false := by simpa using begun
  have plus : Text.naturalBelow? bound ('+' :: ds) =
      if natural 0 ds < bound then some (natural 0 ds) else none := by
    simp only [Text.naturalBelow?, more, foldlM_digits digits]
    rfl
  refine ⟨?_, plus⟩
  obtain ⟨d, ds, rfl⟩ := List.exists_cons_of_ne_nil begun
  have notPlus : d ≠ '+' := by
    rintro rfl
    exact absurd (digits '+' List.mem_cons_self) (by decide)
  rw [← plus, Text.naturalBelow?, Text.naturalBelow?]
  exact fun rest same => notPlus (List.cons.inj same).1

/-- A coefficient, a mark and an exponent with its sign. -/
theorem readScientific_eq (marks : ∀ c ∈ m, isExponentMark c = false)
    (digits : ∀ d ∈ ds, d.isDigit) (begun : ds ≠ []) (negative : Bool) :
    readScientific (m ++ 'e' :: (if negative then '-' else '+') :: ds) =
      (readPlain m >>= fun a =>
        if natural 0 ds < wordBound then
          if negative then a.shiftDown (natural 0 ds) else a.shiftUp (natural 0 ds)
        else .error .badExponent) := by
  have unmarked : ∀ c ∈ m, (!isExponentMark c) = true := fun c mem => by rw [marks c mem]; rfl
  have front (rest : List Char) :
      (m ++ 'e' :: rest).takeWhile (!isExponentMark ·) = m := by
    rw [List.takeWhile_append_of_pos unmarked]
    exact List.append_nil m
  have back (rest : List Char) :
      ((m ++ 'e' :: rest).dropWhile (!isExponentMark ·)).drop 1 = rest := by
    rw [List.dropWhile_append_of_pos unmarked]
    rfl
  obtain ⟨bare, plus⟩ := naturalBelow?_digits digits begun wordBound
  rw [readScientific, front, back]
  refine congrArg _ (funext fun a => ?_)
  cases negative with
  | true =>
    simp only [if_true, bare]
    by_cases small : natural 0 ds < wordBound
    · rw [if_pos small, if_pos small]
    · rw [if_neg small, if_neg small]
  | false =>
    simp only [Bool.false_eq_true, if_false]
    split
    next same => exact absurd (List.cons.inj same).1 (by decide)
    next =>
      rw [plus]
      by_cases small : natural 0 ds < wordBound
      · rw [if_pos small, if_pos small]
      · rw [if_neg small, if_neg small]

/-- A text with an exponent is read as a coefficient and an exponent. -/
theorem ofText_mark {text : String} (mem : 'e' ∈ text.toList) :
    ofText text = readScientific text.toList := by
  obtain ⟨e, failed⟩ := readPlain_mark (show isExponentMark 'e' from rfl) mem
  have marked : text.toList.any isExponentMark = true := List.any_eq_true.mpr ⟨'e', mem, rfl⟩
  simp only [ofText, failed, marked, if_true]

theorem ofText_plain {text : String} {a : Decimal} (read : readPlain text.toList = .ok a) :
    ofText text = .ok a := by
  simp only [ofText, read]

end Decimal

end QuoteKeeper
