import Exif.Decimal.Digits
import Exif.Proofs.Double.Nearest

/-! Integers as doubles. An integer is rounded to a double nearest to it, and the conversion fails exactly
from the threshold on, where there is none. -/

namespace Exif.Double

open Float.Model (UnpackedFloat totalExponent)
open Float.Model.UnpackedFloat
open Float.Model.Format (binary64)

/-! ## Dropping digits -/

/-- What a shift keeps: the quotient, the first binary digit dropped, and whether another dropped one is
not zero. -/
theorem shift_eq (m k : Nat) :
    (ExtendedMantissa.ofMantissaAndAccuracy m .exact) >>> k =
      ⟨m / 2 ^ k, 2 * m / 2 ^ k % 2 != 0, 2 * m % 2 ^ k != 0⟩ := by
  induction k with
  | zero =>
    change ExtendedMantissa.mk m false false = _
    simp [Nat.mod_one]
  | succ k ih =>
    change ((ExtendedMantissa.ofMantissaAndAccuracy m .exact) >>> k).shiftRightOne = _
    rw [ih, ExtendedMantissa.shiftRightOne]
    have hround : 2 * m / 2 ^ (k + 1) = m / 2 ^ k := by
      rw [Nat.pow_succ, mul_comm _ 2, Nat.mul_div_mul_left _ _ two_pos]
    have hsticky : 2 * m % 2 ^ (k + 1) = 2 * m % 2 ^ k + 2 ^ k * (2 * m / 2 ^ k % 2) := Nat.mod_pow_succ
    have hpow : 2 ^ k ≠ 0 := (Nat.two_pow_pos k).ne'
    simp only [ExtendedMantissa.mk.injEq]
    refine ⟨by rw [Nat.div_div_eq_div_mul, Nat.pow_succ], by rw [hround], ?_⟩
    rw [hsticky, Bool.eq_iff_iff]
    simp only [Bool.or_eq_true, bne_iff_ne, ne_eq, Nat.add_eq_zero_iff, Nat.mul_eq_zero, hpow, false_or]
    tauto

theorem roundedMantissa_below (q : Nat) (sticky : Bool) :
    (ExtendedMantissa.mk q false sticky).roundedMantissa = q := by
  cases sticky <;> rfl

/-- The significand that `m` is rounded to when `k` binary digits are dropped is a nearest one, and even if
there are two. -/
theorem roundedMantissa_nearest (m k : Nat) {r : Nat}
    (hr : ((ExtendedMantissa.ofMantissaAndAccuracy m .exact) >>> k).roundedMantissa = r) :
    2 * (r * 2 ^ k) ≤ 2 * m + 2 ^ k ∧ 2 * m ≤ 2 * (r * 2 ^ k) + 2 ^ k ∧
      (2 * (r * 2 ^ k) = 2 * m + 2 ^ k ∨ 2 * m = 2 * (r * 2 ^ k) + 2 ^ k → r % 2 = 0) := by
  have hpow : 0 < 2 ^ k := Nat.two_pow_pos k
  have hm := Nat.div_add_mod' m (2 ^ k)
  have hd := Nat.mod_lt m hpow
  set q := m / 2 ^ k with hq
  set d := m % 2 ^ k with hdef
  have hquot : 2 * m / 2 ^ k = 2 * q + 2 * d / 2 ^ k := by
    rw [← hm, show 2 * (q * 2 ^ k + d) = 2 * d + 2 ^ k * (2 * q) by ring, Nat.add_mul_div_left _ _ hpow]
    ring
  have hrest : 2 * m % 2 ^ k = 2 * d % 2 ^ k := by
    rw [← hm, show 2 * (q * 2 ^ k + d) = 2 * d + 2 ^ k * (2 * q) by ring, Nat.add_mul_mod_self_left]
  rw [shift_eq, hquot, hrest, ← hq] at hr
  rcases Nat.lt_trichotomy (2 * d) (2 ^ k) with hlt | heq | hgt
  · -- less than half is dropped
    have hbit : ((2 * q + 0) % 2 != 0) = false := by simp
    rw [Nat.div_eq_of_lt hlt, hbit, roundedMantissa_below] at hr
    rw [← hr]
    omega
  · -- half is dropped
    have hbit : ((2 * q + 1) % 2 != 0) = true := by simp
    rw [heq, Nat.div_self hpow, Nat.mod_self, hbit] at hr
    change q + q % 2 = r at hr
    rcases Nat.mod_two_eq_zero_or_one q with hpar | hpar
    · rw [← hr, hpar, Nat.add_zero]
      omega
    · rw [← hr, hpar, Nat.add_mul, Nat.one_mul]
      omega
  · -- more than half is dropped
    have hdiv : 2 * d / 2 ^ k = 1 := Nat.div_eq_of_lt_le (by omega) (by omega)
    have hmod : 2 * d % 2 ^ k = 2 * d - 2 ^ k := by
      rw [Nat.mod_eq_sub_mod hgt.le, Nat.mod_eq_of_lt (by omega)]
    have hbit : ((2 * q + 1) % 2 != 0) = true := by simp
    have hbeyond : (2 * d - 2 ^ k != 0) = true := bne_iff_ne.2 (by omega)
    rw [hdiv, hmod, hbit, hbeyond] at hr
    change q + 1 = r at hr
    rw [← hr, Nat.add_mul, Nat.one_mul]
    omega

/-- In numbers: a rounded significand is off by half a unit at most. -/
theorem two_mul_abs_roundedMantissa_sub {m k r : Nat}
    (hr : ((ExtendedMantissa.ofMantissaAndAccuracy m .exact) >>> k).roundedMantissa = r) :
    2 * |(r : ℚ) * 2 ^ k - m| ≤ 2 ^ k ∧ (2 * |(r : ℚ) * 2 ^ k - m| = 2 ^ k → r % 2 = 0) := by
  obtain ⟨hup, hdown, htie⟩ := roundedMantissa_nearest m k hr
  have hup' : 2 * ((r : ℚ) * 2 ^ k) ≤ 2 * m + 2 ^ k := by exact_mod_cast hup
  have hdown' : 2 * (m : ℚ) ≤ 2 * (r * 2 ^ k) + 2 ^ k := by exact_mod_cast hdown
  rcases le_total ((r : ℚ) * 2 ^ k) m with hle | hle
  · rw [abs_of_nonpos (sub_nonpos.2 hle)]
    refine ⟨by linarith, fun h => htie (Or.inr ?_)⟩
    have heq : 2 * (m : ℚ) = 2 * (r * 2 ^ k) + 2 ^ k := by linarith
    exact_mod_cast heq
  · rw [abs_of_nonneg (sub_nonneg.2 hle)]
    refine ⟨by linarith, fun h => htie (Or.inl ?_)⟩
    have heq : 2 * ((r : ℚ) * 2 ^ k) = 2 * m + 2 ^ k := by linarith
    exact_mod_cast heq

/-! ## Rounding of positive integers -/

/-- Rounding up may carry into a 54th digit; the second shift then takes a zero away. -/
theorem shift_of_carry {r : Nat} {e : ℤ} (hlow : 2 ^ 52 ≤ r) (hhigh : r ≤ 2 ^ 53) (he : -1074 ≤ e) :
    ∃ m f, (shiftToTargetExponent binary64 r e .exact).1.mantissa = m ∧
      (shiftToTargetExponent binary64 r e .exact).2 = f ∧ 2 ^ 52 ≤ m ∧ m < 2 ^ 53 ∧ e ≤ f ∧
      (m : ℚ) * 2 ^ f = r * 2 ^ e ∧ (r % 2 = 0 → m % 2 = 0) := by
  have hm := mantissa_shiftToTarget r e .exact
  have hf := exponent_shiftToTarget r e .exact
  simp only [targetExponent_eq, totalExponent] at hm hf
  refine ⟨_, _, hm, hf, ?_⟩
  rcases Nat.lt_or_eq_of_le hhigh with hlt | rfl
  · have hlog : r.log2 = 52 := (Nat.log2_eq_iff (by omega)).2 ⟨hlow, hlt⟩
    have hshift : (max ((r.log2 : ℤ) + 1 + e - 53) (-1074) - e).toNat = 0 := by omega
    have hexp : max e (max ((r.log2 : ℤ) + 1 + e - 53) (-1074)) = e := by omega
    rw [hshift, hexp, pow_zero, Nat.div_one]
    exact ⟨hlow, hlt, le_rfl, rfl, id⟩
  · have hlog : (2 ^ 53).log2 = 53 := Nat.log2_two_pow
    have hshift : (max (((2 ^ 53).log2 : ℤ) + 1 + e - 53) (-1074) - e).toNat = 1 := by omega
    have hexp : max e (max (((2 ^ 53).log2 : ℤ) + 1 + e - 53) (-1074)) = e + 1 := by omega
    rw [hshift, hexp]
    refine ⟨by decide, by decide, by omega, ?_, fun _ => by decide⟩
    rw [zpow_add_one₀ two_ne_zero]
    norm_num
    ring

/-- A number scaled by `2 ^ a` and rounded to a multiple of `2 ^ k` is rounded to a nearest one. -/
theorem nearest_of_scaled {n r a k : Nat} (hlow : 2 ^ 52 * 2 ^ k ≤ n * 2 ^ a)
    (hhalf : 2 * |(r : ℚ) * 2 ^ k - (n * 2 ^ a : Nat)| ≤ 2 ^ k)
    (htie : 2 * |(r : ℚ) * 2 ^ k - (n * 2 ^ a : Nat)| = 2 ^ k → r % 2 = 0) :
    Nearest n (r * 2 ^ ((k : ℤ) - a)) (r % 2 = 0) := by
  have ha : (0 : ℚ) < 2 ^ a := by positivity
  have ht : (2 : ℚ) ^ ((k : ℤ) - a) = 2 ^ k / 2 ^ a := by
    rw [zpow_sub₀ two_ne_zero, zpow_natCast, zpow_natCast]
  have hdist : 2 * |((r : ℤ) : ℚ) * 2 ^ ((k : ℤ) - a) - n| =
      2 * |(r : ℚ) * 2 ^ k - (n * 2 ^ a : Nat)| / 2 ^ a := by
    rw [ht, Int.cast_natCast, mul_div_assoc', div_sub' ha.ne', abs_div, abs_of_pos ha, mul_div_assoc']
    push_cast
    rw [mul_comm (2 ^ a) (n : ℚ)]
  have hnear : Nearest n ((r : ℤ) * 2 ^ ((k : ℤ) - a)) ((r : ℤ) % 2 = 0) := by
    apply nearest_of_half
    · rw [ht, mul_div_assoc', div_le_iff₀ ha]
      exact_mod_cast hlow
    · rw [hdist, ht]
      gcongr
    · rw [hdist, ht, div_left_inj' ha.ne']
      intro h
      exact_mod_cast htie h
  rw [Int.cast_natCast] at hnear
  exact hnear.mono fun h => by omega

/-- A positive integer is rounded to 53 binary digits, to a nearest number that has as many. -/
theorem round_natCast (s : Sign) {n : Nat} (hn : 0 < n) :
    ∃ m e hm, UnpackedFloat.round binary64 s n 0 = .finite s m e hm ∧ 2 ^ 52 ≤ m ∧ m < 2 ^ 53 ∧
      -52 ≤ e ∧ Nearest n (m * 2 ^ e) (m % 2 = 0) := by
  -- `n` gets `a` digits more to have 53 at least, and then `k` are dropped to have 53 at most
  set k := n.log2 - 52 with hk
  set a := 52 - n.log2 with ha
  have hlow : 2 ^ 52 * 2 ^ k ≤ n * 2 ^ a := by
    rw [← pow_add, show 52 + k = n.log2 + a by omega, pow_add]
    exact Nat.mul_le_mul_right _ (Nat.log2_self_le hn.ne')
  have hhigh : n * 2 ^ a < 2 ^ 53 * 2 ^ k := by
    rw [← pow_add, show 53 + k = n.log2 + 1 + a by omega, pow_add]
    exact Nat.mul_lt_mul_of_pos_right Nat.lt_log2_self (Nat.two_pow_pos a)
  have hlog : (n * 2 ^ a).log2 = 52 + k := by
    rw [Nat.log2_eq_iff (by positivity), pow_add, show 52 + k + 1 = 53 + k by omega, pow_add]
    exact ⟨hlow, hhigh⟩
  have hround : UnpackedFloat.round binary64 s n 0 =
      roundWithAccuracy binary64 s (n * 2 ^ a) (-a) .exact := by
    have hmore : (-max ((n.log2 : ℤ) + 1 + 0 - 53) (-1074)).toNat = a := by omega
    simp only [UnpackedFloat.round, decreaseExponent, targetExponent_eq, totalExponent,
      Nat.shiftLeft_eq, zero_sub, hmore]
  set first := (ExtendedMantissa.ofMantissaAndAccuracy (n * 2 ^ a) .exact) >>> k with hfirst
  have hshift : shiftToTargetExponent binary64 (n * 2 ^ a) (-a) .exact = (first, (k : ℤ) - a) := by
    have hless : (max (((52 + k : Nat) : ℤ) + 1 + -a - 53) (-1074) - -(a : ℤ)).toNat = k := by omega
    simp only [shiftToTargetExponent, shiftToExponent, targetExponent_eq, totalExponent, hlog, hless]
    rw [neg_add_eq_sub]
  set r := first.roundedMantissa with hr
  obtain ⟨hhalf, htie⟩ := two_mul_abs_roundedMantissa_sub hr.symm
  obtain ⟨hup, hdown, -⟩ := roundedMantissa_nearest (n * 2 ^ a) k hr.symm
  have hrlow : 2 ^ 52 ≤ r := by
    by_contra hlt
    have hmul := Nat.mul_le_mul_right (2 ^ k) (show r + 1 ≤ 2 ^ 52 by omega)
    rw [Nat.add_mul, Nat.one_mul] at hmul
    have := Nat.two_pow_pos k
    omega
  have hrhigh : r ≤ 2 ^ 53 := by
    by_contra hlt
    have hmul := Nat.mul_le_mul_right (2 ^ k) (show 2 ^ 53 + 1 ≤ r by omega)
    rw [Nat.add_mul, Nat.one_mul] at hmul
    have := Nat.two_pow_pos k
    omega
  obtain ⟨m, e, hm, he, hmlow, hmhigh, hle, hvalue, heven⟩ :=
    shift_of_carry (e := (k : ℤ) - a) hrlow hrhigh (by omega)
  refine ⟨m, e, by omega, ?_, hmlow, hmhigh, by omega, ?_⟩
  · rw [hround]
    simp only [roundWithAccuracy, hshift, ← hr, hm, he]
    rw [dif_neg (by omega)]
  · rw [hvalue]
    exact (nearest_of_scaled hlow hhalf htie).mono heven

/-! ## Integers as doubles -/

/-- A double to which an integer is rounded: among the numbers of 53 binary digits, doubles or beyond them,
none is nearer to the integer, and of two that are as near it is the one with an even significand. -/
def IsNearest (n : ℤ) (x : Float) : Prop := ∃ v, number? x = some v ∧ Nearest n v (HasEvenSignificand x)

/-- The double that an integer is, is the nearest one. -/
theorem isNearest_of_number? {n : ℤ} {x : Float} (h : number? x = some (n : ℚ)) : IsNearest n x :=
  ⟨n, h, nearest_self _ _⟩

/-- What an integer other than zero is rounded to before the range is looked at. -/
theorem ofInt_finite {n : ℤ} (hn : n ≠ 0) :
    ∃ s m e hm, UnpackedFloat.ofInt binary64 n = .finite s m e hm ∧ n = s.apply n.natAbs ∧ 2 ^ 52 ≤ m ∧
      m < 2 ^ 53 ∧ -52 ≤ e ∧ Nearest n.natAbs (m * 2 ^ e) (m % 2 = 0) := by
  have hpos : 0 < n.natAbs := Int.natAbs_pos.2 hn
  simp only [UnpackedFloat.ofInt, UnpackedFloat.normalize]
  split
  · next hlt =>
    have hneg : n < 0 := Int.compare_eq_lt.1 hlt
    obtain ⟨m, e, hm, hround, hrest⟩ := round_natCast .negative hpos
    refine ⟨.negative, m, e, hm, ?_, by simp only [Sign.apply]; omega, hrest⟩
    rw [← hround, show (-n).toNat = n.natAbs by omega]
  · next heq => exact absurd (Int.compare_eq_eq.1 heq) hn
  · next hgt =>
    have hpositive : 0 < n := Int.compare_eq_gt.1 hgt
    obtain ⟨m, e, hm, hround, hrest⟩ := round_natCast .positive hpos
    refine ⟨.positive, m, e, hm, ?_, by simp only [Sign.apply]; omega, hrest⟩
    rw [← hround, show n.toNat = n.natAbs by omega]

theorem ofInt?_zero : ofInt? 0 = some 0 := rfl

/-- An integer is rounded to a nearest double, or it is too large for that. -/
theorem ofInt?_outcome (n : ℤ) :
    (∃ x, ofInt? n = some x ∧ IsNearest n x) ∨ (ofInt? n = none ∧ threshold ≤ |n|) := by
  by_cases hn : n = 0
  · rw [hn]
    exact Or.inl ⟨0, ofInt?_zero, isNearest_of_number? (by rw [Int.cast_zero]; rfl)⟩
  · obtain ⟨s, m, e, hm, hround, hsign, hlow, hhigh, he, hnear⟩ := ofInt_finite hn
    have hof : ofInt n = ofUnpacked (.finite s m e hm) := congrArg ofUnpacked hround
    rcases Int.lt_or_le 971 e with hbeyond | hwithin
    · right
      rw [ofInt?, hof, not_isFinite_ofUnpacked hm (by omega), Int.abs_eq_natAbs]
      exact ⟨rfl, threshold_le_of_nearest hlow (by omega) hnear⟩
    · left
      have hunpack := unpack_ofUnpacked (s := s) hm hlow hhigh (by omega) hwithin
      refine ⟨ofUnpacked (.finite s m e hm), ?_, s.apply m * 2 ^ e, ?_, ?_⟩
      · rw [ofInt?, hof, if_pos (isFinite_ofUnpacked (u := .finite s m e hm) hwithin)]
      · rw [number?, hunpack]
        rfl
      · have hn : (n : ℚ) = s.apply 1 * n.natAbs := by
          conv_lhs => rw [hsign]
          rw [cast_apply, Int.cast_natCast]
        have heven : m % 2 = 0 → HasEvenSignificand (ofUnpacked (.finite s m e hm)) := by
          rw [HasEvenSignificand, hunpack]
          exact id
        rw [hn, cast_apply s m, Int.cast_natCast, mul_assoc]
        exact (hnear.apply s).mono heven

/-- A double is nearest only to integers in range. -/
theorem IsNearest.abs_lt_threshold {n : ℤ} {x : Float} (h : IsNearest n x) : |n| < threshold := by
  obtain ⟨v, hv, hnear⟩ := h
  obtain ⟨a, e, rfl, ha, -, he, heven⟩ := exists_of_number? hv
  rw [abs_lt] at ha
  have hup := lt_threshold_of_nearest ha.2 he (hnear.mono heven)
  have hdown : -n < threshold := by
    refine lt_threshold_of_nearest (a := -a) (by omega) he ?_
    push_cast
    rw [neg_mul]
    exact hnear.neg.mono fun h => by have := heven h; omega
  rw [abs_lt]
  omega

/-- All doubles nearest to an integer are the same number. -/
theorem IsNearest.number?_eq {n : ℤ} {x y : Float} (hx : IsNearest n x) (hy : IsNearest n y) :
    number? x = number? y := by
  obtain ⟨v, hv, hnear⟩ := hx
  obtain ⟨w, hw, hnear'⟩ := hy
  obtain ⟨a, e, rfl, ha, he, -, heven⟩ := exists_of_number? hv
  obtain ⟨b, f, rfl, hb, hf, -, heven'⟩ := exists_of_number? hw
  obtain ⟨hle, htie⟩ := hnear _ ⟨b, f, hb, hf, rfl⟩
  obtain ⟨hle', htie'⟩ := hnear' _ ⟨a, e, ha, he, rfl⟩
  have heq := le_antisymm hle hle'
  rw [hv, hw, Option.some_inj]
  rcases htie heq.symm with h | hx
  · exact h.symm
  · rcases htie' heq with h | hy
    · exact h
    · rcases le_total e f with hef | hfe
      · exact not_tied hnear ha he hef (heven hx) (heven' hy) heq.symm
      · exact (not_tied hnear' hb hf hfe (heven' hy) (heven hx) heq).symm

theorem IsNearest.ne_zero {n : ℤ} {x : Float} {v : ℚ} (h : IsNearest n x) (hv : number? x = some v)
    (hn : n ≠ 0) : v ≠ 0 := by
  obtain ⟨w, hw, hnear⟩ := h
  obtain rfl : w = v := Option.some.inj (hw.symm.trans hv)
  rcases lt_or_gt_of_ne hn with hneg | hpos
  · have hmirror := hnear.neg
    rw [← Int.cast_neg] at hmirror
    exact neg_ne_zero.1 (hmirror.ne_zero (by omega))
  · exact hnear.ne_zero hpos

/-- An integer other than zero has one nearest double. -/
theorem IsNearest.unique {n : ℤ} {x y : Float} (hx : IsNearest n x) (hy : IsNearest n y) (hn : n ≠ 0) :
    x = y := by
  have ⟨v, hv, _⟩ := hx
  exact eq_of_number? hv (hx.number?_eq hy ▸ hv) (hx.ne_zero hv hn)

theorem IsNearest.ofInt?_eq {n : ℤ} {x : Float} (h : IsNearest n x) (hn : n ≠ 0) : ofInt? n = some x := by
  rcases ofInt?_outcome n with ⟨y, hy, hnear⟩ | ⟨-, hbeyond⟩
  · rw [hy, hnear.unique h hn]
  · exact absurd hbeyond (not_le.2 h.abs_lt_threshold)

/-- Integers from the threshold on, and no others, are no doubles. -/
theorem ofInt?_eq_none_iff {n : ℤ} : ofInt? n = none ↔ threshold ≤ |n| := by
  rcases ofInt?_outcome n with ⟨x, hx, hnear⟩ | ⟨hnone, hle⟩
  · rw [hx]
    exact iff_of_false (fun h => nomatch h) (not_le.2 hnear.abs_lt_threshold)
  · exact iff_of_true hnone hle

/-! ## Writing -/

theorem isWritable_of_abs_lt {n : ℤ} (h : |n| < threshold) : Decimal.isWritable n = true := by
  have hpower : (2 : ℕ) ^ 1024 ≤ Decimal.leastBeyond Decimal.maxDigits := by decide +kernel
  have habs : n.natAbs < 2 ^ 1024 := by
    zify
    exact h.trans (sub_lt_self _ (by positivity))
  exact Decimal.isWritable_iff.2 (habs.trans_le hpower)

theorem isWritable_of_ofInt? {n : ℤ} {x : Float} (h : ofInt? n = some x) :
    Decimal.isWritable n = true := by
  refine isWritable_of_abs_lt (not_le.1 fun hle => ?_)
  exact nomatch (ofInt?_eq_none_iff.2 hle).symm.trans h

theorem isWritable_of_toInt? {x : Float} {n : ℤ} (h : toInt? x = some n) : Decimal.isWritable n = true :=
  isWritable_of_abs_lt (isNearest_of_number? (toInt?_eq_some_iff.1 h)).abs_lt_threshold

end Exif.Double
