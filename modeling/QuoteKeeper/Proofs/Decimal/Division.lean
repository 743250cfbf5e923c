import Mathlib.Algebra.Order.Field.Power
import QuoteKeeper.Decimal.Quotient
import QuoteKeeper.Proofs.Decimal.Rounding

/-!
# A quotient passes no decimal

Long division keeps the quotient that it is to find: the digits so far and the remainder over the
divisor stand for it, at any number of places. Where it stops, either nothing remains or the digits
are nearest at the finest scale that fits. So a quotient is rounded like a sum or a product.
-/

namespace QuoteKeeper

namespace Decimal

/-- The digits `q` at `s` places, with the remainder `r` over the divisor, stand for `x`. -/
structure Dividing (x : ℚ) (d q r : Nat) (s : Int) : Prop where
  spent : r < d
  short : q ≤ limit
  inPlaces : s ≤ 28
  stands : x * 10 ^ s = q + (r : ℚ) / d

/-- What one step of the division leads to is right. -/
def Step.Sound (x : ℚ) (d : Nat) {s : Int} : Step s → Prop
  | .done answer => ∀ v ∈ answer, Rounds x (v.1 / 10 ^ v.2)
  | .more digits rest places _ => Dividing x d digits rest places

theorem headroom_zero {q : Nat} {s : Int} {bound : Nat} (full : headroom q s (bound + 1) = 0) :
    ¬ (q * 10 ≤ limit ∧ s + 1 ≤ 28) := by
  induction bound with
  | zero =>
    intro room
    rw [headroom, if_pos (by simpa using room)] at full
    exact nomatch full
  | succ bound ih =>
    rw [headroom] at full
    split at full
    · exact nomatch full
    · exact ih full

/-- Digits that give up the last one are nearest to a tenth of them, whatever part follows. -/
theorem tenth_near (q : Nat) {part : ℚ} {sticky : Bool} (nonneg : 0 ≤ part) (less : part < 1)
    (told : sticky = false → part = 0) :
    |(q + part) / 10 - (if decide (5 < q % 10) ||
      (decide (q % 10 = 5) && (sticky || decide (q / 10 % 2 = 1))) then q / 10 + 1 else q / 10 : ℕ)|
      ≤ 1 / 2 := by
  have tenth : (q : ℚ) = 10 * (q / 10 : ℕ) + (q % 10 : ℕ) := by
    exact_mod_cast (Nat.div_add_mod q 10).symm
  rw [tenth, abs_le]
  split
  next up =>
    -- At least half of the last place is given up.
    have atLeast : (5 : ℚ) ≤ (q % 10 : ℕ) := by
      have : 5 ≤ q % 10 := by
        simp only [Bool.or_eq_true, Bool.and_eq_true, decide_eq_true_eq] at up
        omega
      exact_mod_cast this
    have atMost : ((q % 10 : ℕ) : ℚ) ≤ 9 := by
      exact_mod_cast Nat.le_of_lt_succ (Nat.mod_lt q (by decide))
    push_cast at *
    constructor
    · linarith
    · linarith
  next down =>
    have atMost : ((q % 10 : ℕ) : ℚ) + part ≤ 5 := by
      simp only [Bool.or_eq_true, Bool.and_eq_true, decide_eq_true_eq, not_or, not_and,
        not_lt] at down
      obtain ⟨below, tie⟩ := down
      rcases Nat.lt_or_ge (q % 10) 5 with fewer | five
      · have : ((q % 10 : ℕ) : ℚ) ≤ 4 := by exact_mod_cast Nat.le_of_lt_succ fewer
        linarith
      · have same : q % 10 = 5 := le_antisymm below five
        rw [same, told (Bool.eq_false_iff.mpr (tie same).1)]
        norm_num
    have low : (0 : ℚ) ≤ (q % 10 : ℕ) := Nat.cast_nonneg _
    constructor
    · linarith
    · linarith

namespace Dividing

variable {x : ℚ} {d q r : Nat} {s : Int}

theorem divisor_pos (h : Dividing x d q r s) : (0 : ℚ) < d := by
  exact_mod_cast Nat.zero_lt_of_lt h.spent

theorem part_nonneg (h : Dividing x d q r s) : 0 ≤ (r : ℚ) / d := by
  have := h.divisor_pos
  positivity

theorem nonneg (h : Dividing x d q r s) : 0 ≤ x := by
  have product : 0 ≤ x * 10 ^ s := by
    rw [h.stands]
    exact add_nonneg (Nat.cast_nonneg q) h.part_nonneg
  exact nonneg_of_mul_nonneg_left product (by positivity)

/-- Where nothing remains, the digits are all. -/
theorem withWhole (h : Dividing x d q 0 s) {c t : Nat}
    (found : Decimal.withWhole q s = some (c, t)) : x = c / 10 ^ t := by
  have whole : x * 10 ^ s = q := by simpa using h.stands
  have power : (10 : ℚ) ^ s ≠ 0 := by positivity
  rw [Decimal.withWhole] at found
  split at found
  next placed =>
    obtain ⟨rfl, rfl⟩ := Prod.mk.inj (Option.some.inj found)
    rw [← whole, ← zpow_natCast, Int.toNat_of_nonneg placed]
    field_simp
  next missing =>
    dsimp only at found
    split at found
    next =>
      obtain ⟨rfl, rfl⟩ := Prod.mk.inj (Option.some.inj found)
      have zeros : ((10 : ℚ) ^ (-s).toNat) = 10 ^ (-s) := by
        rw [← zpow_natCast, Int.toNat_of_nonneg (by omega)]
      rw [Nat.pow_eq]
      push_cast
      rw [zeros, ← whole, pow_zero, div_one, mul_assoc, ← zpow_add₀ (by norm_num), add_neg_cancel,
        zpow_zero, mul_one]
    next => exact nomatch found

/-- Digits that are one place too long give up the last one and stay nearest. -/
theorem carry {longer rest : Nat} {places : Int} (spent : rest < d)
    (stands : x * 10 ^ places = longer + (rest : ℚ) / d) (long : limit < longer) {c t : Nat}
    (found : Decimal.carry longer places (rest != 0) = some (c, t)) : Nearest x c t := by
  have room : (0 : ℚ) < d := by exact_mod_cast Nat.zero_lt_of_lt spent
  have part : (rest : ℚ) / d < 1 := by
    rw [div_lt_one room]
    exact_mod_cast spent
  have nonneg : 0 ≤ (rest : ℚ) / d := by positivity
  rw [Decimal.carry] at found
  split at found
  · exact nomatch found
  next placed =>
    obtain ⟨digits, rfl⟩ := Prod.mk.inj (Option.some.inj found)
    have shifted : x * 10 ^ ((places - 1).toNat + 1) = longer + (rest : ℚ) / d := by
      rw [← stands, ← zpow_natCast]
      congr 2
      omega
    constructor
    · have told : (rest != 0) = false → (rest : ℚ) / d = 0 := by
        intro clean
        rw [bne_eq_false_iff_eq.mp clean, Nat.cast_zero, zero_div]
      have tenth : x * 10 ^ (places - 1).toNat = (longer + (rest : ℚ) / d) / 10 := by
        rw [← shifted, pow_succ, ← mul_assoc, mul_div_cancel_right₀ _ (by norm_num)]
      rw [← digits, tenth]
      exact tenth_near longer nonneg part told
    · right
      rw [shifted]
      have : (limit : ℚ) < longer := by exact_mod_cast long
      linarith

/-- Where no digit fits any more, the last one is rounded. -/
theorem round (h : Dividing x d q r s) (placed : 0 ≤ s) (full : headroom q s 9 = 0) :
    Nearest x (halfEven (q * d + r) d) s.toNat := by
  have room := h.divisor_pos
  have scale : x * 10 ^ s.toNat = q + (r : ℚ) / d := by
    rw [← h.stands, ← zpow_natCast, Int.toNat_of_nonneg placed]
  constructor
  · have near := halfEven_near (q * d + r) (Nat.zero_lt_of_lt h.spent)
    have same : ((q * d + r : ℕ) : ℚ) / d = q + (r : ℚ) / d := by
      push_cast
      field_simp
    rwa [same, ← scale] at near
  · rcases not_and_or.mp (headroom_zero full) with long | last
    · right
      rw [pow_succ, ← mul_assoc, scale]
      have : (limit : ℚ) < q * 10 := by exact_mod_cast not_le.mp long
      have := h.part_nonneg
      linarith
    · left
      have := h.inPlaces
      rw [places]
      omega

/-- Only the digits at the limit round past it, and these give up the last one. -/
theorem round_over (h : Dividing x d q r s) (placed : 0 ≤ s) (full : headroom q s 9 = 0)
    (beyond : limit < halfEven (q * d + r) d) {c t : Nat}
    (found : Decimal.carry (halfEven (q * d + r) d) s true = some (c, t)) : Nearest x c t := by
  have top : halfEven (q * d + r) d = limit + 1 := by
    have less : (q * d + r) / d = q := by
      rw [mul_comm, Nat.mul_add_div (Nat.zero_lt_of_lt h.spent), Nat.div_eq_of_lt h.spent, add_zero]
    have := halfEven_le_succ (q * d + r) d
    have := h.short
    omega
  have near := (h.round placed full).near
  rw [top] at found near
  by_cases first : s < 1
  · rw [Decimal.carry, if_pos first] at found
    exact nomatch found
  · have carried : Decimal.carry (limit + 1) s true =
        some ((limit + 1) / 10 + 1, (s - 1).toNat) := by
      rw [Decimal.carry, if_neg first]
      rfl
    obtain ⟨rfl, rfl⟩ := Prod.mk.inj (Option.some.inj (carried.symm.trans found))
    have scale : s.toNat = (s - 1).toNat + 1 := by omega
    rw [scale] at near
    exact Nearest.shorten near

/-- The next digits and what then remains. -/
theorem further (h : Dividing x d q r s) (n : Nat) :
    x * 10 ^ (s + n) = ((q * 10 ^ n + r * 10 ^ n / d : ℕ) : ℚ) +
      ((r * 10 ^ n % d : ℕ) : ℚ) / d := by
  have room := h.divisor_pos
  have split : ((r * 10 ^ n : ℕ) : ℚ) = d * (r * 10 ^ n / d : ℕ) + (r * 10 ^ n % d : ℕ) := by
    exact_mod_cast (Nat.div_add_mod _ d).symm
  rw [zpow_add₀ (by norm_num), ← mul_assoc, h.stands, zpow_natCast]
  push_cast at split ⊢
  field_simp
  linarith

theorem step_sound (h : Dividing x d q r s) : (step d q r s).Sound x d := by
  rw [step]
  split
  next nothing =>
    subst nothing
    rintro ⟨c, t⟩ found
    rw [h.withWhole found]
    exact Rounds.refl _
  next =>
    generalize strided : stride q s = z
    obtain ⟨n, inPlaces⟩ := z
    have headed : headroom q s 9 = n := congrArg Subtype.val strided
    dsimp only
    split
    · exact fun v member => nomatch member
    next whole =>
      split
      next full =>
        subst full
        have placed : 0 ≤ s := by omega
        rintro ⟨c, t⟩ found
        split at found
        next =>
          obtain ⟨rfl, rfl⟩ := Prod.mk.inj (Option.some.inj found)
          exact (h.round placed headed).rounds h.nonneg
        next beyond => exact (h.round_over placed headed (not_le.mp beyond) found).rounds h.nonneg
      next fits =>
        have spent : r * 10 ^ n % d < d := Nat.mod_lt _ (Nat.zero_lt_of_lt h.spent)
        simp only [Nat.pow_eq]
        split
        next short => exact ⟨spent, short, by omega, h.further n⟩
        next long =>
          rintro ⟨c, t⟩ found
          exact (carry spent (h.further n) (not_le.mp long) found).rounds h.nonneg

theorem expand (h : Dividing x d q r s) {c t : Nat}
    (found : Decimal.expand d q r s = some (c, t)) : Rounds x (c / 10 ^ t) := by
  induction q, r, s using Decimal.expand.induct d with
  | case1 q r s answer done =>
    have sound := h.step_sound
    rw [done] at sound
    rw [Decimal.expand, done] at found
    exact sound _ found
  | case2 q r s digits rest places closer more ih =>
    have sound := h.step_sound
    rw [more] at sound
    rw [Decimal.expand, more] at found
    exact ih sound found

end Dividing

/-! ### Zeros at the end -/

theorem dropped_zeros {q s n : Nat} (fits : n ≤ s) (zeros : q % 10 ^ n = 0) :
    ((q / 10 ^ n : ℕ) : ℚ) / 10 ^ (s - n) = q / 10 ^ s := by
  have whole : (q : ℚ) = 10 ^ n * (q / 10 ^ n : ℕ) := by
    exact_mod_cast (Nat.mul_div_cancel' (Nat.dvd_of_mod_eq_zero zeros)).symm
  rw [whole, ← Nat.sub_add_cancel fits, pow_add, Nat.add_sub_cancel]
  field_simp

theorem dropEights_value (q s : Nat) :
    ((dropEights q s).1 : ℚ) / 10 ^ (dropEights q s).2 = q / 10 ^ s := by
  induction q, s using dropEights.induct with
  | case1 q s zeros ih =>
    rw [dropEights, if_pos zeros, ih]
    exact dropped_zeros zeros.2.1 zeros.2.2
  | case2 q s kept => rw [dropEights, if_neg kept]

theorem dropGroup_value (n : Nat) (v : Nat × Nat) :
    ((dropGroup n v).1 : ℚ) / 10 ^ (dropGroup n v).2 = v.1 / 10 ^ v.2 := by
  rw [dropGroup]
  split
  next zeros => exact dropped_zeros zeros.2.1 zeros.2.2
  next => rfl

theorem dropZeros_value (v : Nat × Nat) :
    ((dropZeros v).1 : ℚ) / 10 ^ (dropZeros v).2 = v.1 / 10 ^ v.2 := by
  rw [dropZeros, dropGroup_value, dropGroup_value, dropGroup_value, dropEights_value]

/-! ### The quotient -/

theorem isZero_eq_false {a : Decimal} (h : ¬ a.isZero = true) : 0 < a.coefficient := by
  rw [isZero, beq_iff_eq] at h
  exact Nat.pos_of_ne_zero h

theorem dividing (a : Decimal) {b : Decimal} (divisor : 0 < b.coefficient) :
    Dividing (a.magnitude / b.magnitude) b.coefficient (a.coefficient / b.coefficient)
      (a.coefficient % b.coefficient) (a.scale - b.scale) where
  spent := Nat.mod_lt _ divisor
  short := (Nat.div_le_self _ _).trans a.coefficient_le
  inPlaces := by
    have := a.scale_le
    omega
  stands := by
    have room : (0 : ℚ) < b.coefficient := by exact_mod_cast divisor
    have split : (a.coefficient : ℚ) = b.coefficient * (a.coefficient / b.coefficient : ℕ) +
        (a.coefficient % b.coefficient : ℕ) := by
      exact_mod_cast (Nat.div_add_mod _ _).symm
    have quotient : a.magnitude / b.magnitude * 10 ^ ((a.scale : Int) - b.scale) =
        a.coefficient / b.coefficient := by
      rw [magnitude, magnitude, zpow_sub₀ (by norm_num), zpow_natCast, zpow_natCast]
      field_simp
    rw [quotient, split]
    field_simp

theorem value_div (a b : Decimal) :
    a.value / b.value = withSign (a.negative != b.negative) (a.magnitude / b.magnitude) := by
  rw [value_eq_withSign, value_eq_withSign b]
  cases a.negative <;> cases b.negative <;> simp [withSign, neg_div, div_neg]

/-- The digits of a quotient of nonzero numbers. -/
theorem digits_rounds {a b : Decimal} (divisor : 0 < b.coefficient) {c t : Nat}
    (found : (if a.coefficient % b.coefficient = 0 then
        withWhole (a.coefficient / b.coefficient) (a.scale - b.scale)
      else (expand b.coefficient (a.coefficient / b.coefficient) (a.coefficient % b.coefficient)
        (a.scale - b.scale)).map dropZeros) = some (c, t)) :
    Rounds (a.magnitude / b.magnitude) (c / 10 ^ t) := by
  have start := dividing a divisor
  split at found
  next whole =>
    rw [whole] at start
    rw [start.withWhole found]
    exact Rounds.refl _
  next =>
    obtain ⟨v, expanded, dropped⟩ := Option.map_eq_some_iff.mp found
    have same := dropZeros_value v
    rw [dropped] at same
    rw [same]
    exact start.expand expanded

theorem div?_rounds {a b r : Decimal} (h : div? a b = some r) :
    Rounds (a.value / b.value) r.value := by
  rw [div?] at h
  split at h
  next => exact nomatch h
  next divisor =>
    split at h
    next nothing =>
      obtain rfl := Option.some.inj h
      rw [value_of_isZero nothing, zero_div, value_zero]
      exact Rounds.refl _
    next =>
      have both : ∃ c t : ℕ, Rounds (a.magnitude / b.magnitude) (c / 10 ^ t) ∧
          ofParts? (c != 0 && (a.negative != b.negative)) c t = some r := by
        dsimp only at h
        split at h
        next whole =>
          obtain ⟨⟨c, t⟩, found, ends⟩ := Option.bind_eq_some_iff.mp h
          exact ⟨c, t, digits_rounds (isZero_eq_false divisor) (by rw [if_pos whole, found]), ends⟩
        next some =>
          obtain ⟨⟨c, t⟩, found, ends⟩ := Option.bind_eq_some_iff.mp h
          exact ⟨c, t, digits_rounds (isZero_eq_false divisor) (by rw [if_neg some, found]), ends⟩
      obtain ⟨c, t, rounded, parts⟩ := both
      have signed := rounded.withSign (a.negative != b.negative)
      rw [← value_div] at signed
      rw [ofParts?_value parts]
      -- The sign is lost on a zero only.
      rcases Nat.eq_zero_or_pos c with rfl | some
      · simpa [withSign] using signed
      · have shown : (c != 0) = true := bne_iff_ne.mpr some.ne'
        rwa [shown, Bool.true_and]

end Decimal

end QuoteKeeper
