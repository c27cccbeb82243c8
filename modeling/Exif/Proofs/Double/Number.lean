import Exif.Proofs.Double.Finite

/-! The number that a double is, and the doubles that are integers. A double is a number of at most 53
binary digits with an exponent in range, and is known by it but for the sign of zero. A number that has all
53 digits is packed without loss. -/

namespace Exif.Double

open Float.Model (UnpackedFloat totalExponent)
open Float.Model.UnpackedFloat
open Float.Model.Format (binary64)

def numberOf? : UnpackedFloat → Option ℚ
  | .zero _ => some 0
  | .finite s m e _ => some (s.apply m * 2 ^ e)
  | _ => none

def number? (x : Float) : Option ℚ := numberOf? x.toModel.unpack

theorem number?_eq_none_iff {x : Float} : number? x = none ↔ x.isFinite = false := by
  change numberOf? x.toModel.unpack = none ↔ x.toModel.unpack.isFinite = false
  cases x.toModel.unpack <;> simp [numberOf?, UnpackedFloat.isFinite]

def HasEvenSignificand (x : Float) : Prop :=
  match x.toModel.unpack with
  | .finite _ m _ _ => m % 2 = 0
  | _ => True

theorem apply_mul (s : Sign) (m k : ℤ) : s.apply (m * k) = s.apply m * k := by
  cases s <;> simp [Sign.apply]

theorem cast_apply (s : Sign) (k : ℤ) : ((s.apply k : ℤ) : ℚ) = s.apply 1 * k := by
  rw [← Int.cast_mul, ← apply_mul, one_mul]

/-! ## Integers among the doubles -/

/-- A power of two is a quotient of two powers, one of which is one. -/
theorem two_zpow_eq (e : ℤ) : (2 : ℚ) ^ e = 2 ^ e.toNat / 2 ^ (-e).toNat := by
  rw [← zpow_natCast, ← zpow_natCast, ← zpow_sub₀ two_ne_zero]
  congr 1
  omega

/-- A power of two as a multiple of a lesser one. -/
theorem two_zpow_of_le {e f : ℤ} (h : e ≤ f) : (2 : ℚ) ^ f = 2 ^ (f - e).toNat * 2 ^ e := by
  rw [← zpow_natCast, ← zpow_add₀ two_ne_zero, Int.toNat_of_nonneg (by omega), sub_add_cancel]

theorem roundToInt_eq (s : Sign) (m : Nat) (e : ℤ) :
    roundToInt s m e = s.apply ((m * 2 ^ e.toNat / 2 ^ (-e).toNat : Nat) : ℤ) := by
  have hexp : (0 - (e - (e.toNat : ℤ))).toNat = (-e).toNat := by omega
  have hshift (n k : Nat) :
      ((ExtendedMantissa.ofMantissaAndAccuracy n .exact) >>> k).mantissa = n / 2 ^ k := by
    rw [shift_mantissa]
    rfl
  simp only [roundToInt, decreaseExponent, shiftToExponent, hshift, Nat.shiftLeft_eq, sub_zero, hexp]

theorem isInteger_finite_iff {m : Nat} {e : ℤ} :
    (decide (0 ≤ e) || m % Nat.pow 2 (-e).toNat == 0) = true ↔ 2 ^ (-e).toNat ∣ m * 2 ^ e.toNat := by
  rw [Bool.or_eq_true, decide_eq_true_eq, beq_iff_eq, Nat.dvd_iff_mod_eq_zero]
  rcases Int.lt_or_le e 0 with he | he
  · have hzero : e.toNat = 0 := by omega
    rw [hzero, pow_zero, mul_one]
    exact or_iff_right (by omega)
  · have hzero : (-e).toNat = 0 := by omega
    rw [hzero, pow_zero, Nat.mod_one]
    exact iff_of_true (Or.inl he) (Nat.mod_one _)

/-- A finite number is an integer if the division that its exponent stands for leaves nothing. -/
theorem numberOf?_finite_eq_int {s : Sign} {m : Nat} {e : ℤ} {hm : 0 < m} {n : ℤ} :
    numberOf? (.finite s m e hm) = some (n : ℚ) ↔
      2 ^ (-e).toNat ∣ m * 2 ^ e.toNat ∧ roundToInt s m e = n := by
  have hne : (2 : ℚ) ^ (-e).toNat ≠ 0 := pow_ne_zero _ two_ne_zero
  have hcross : numberOf? (.finite s m e hm) = some (n : ℚ) ↔
      s.apply ((m * 2 ^ e.toNat : Nat) : ℤ) = n * (2 ^ (-e).toNat : Nat) := by
    rw [numberOf?, Option.some_inj, two_zpow_eq, mul_div_assoc', div_eq_iff hne]
    push_cast
    rw [apply_mul]
    norm_cast
  have hpos : 0 < 2 ^ (-e).toNat := Nat.two_pow_pos _
  rw [hcross, roundToInt_eq]
  constructor
  · intro h
    have hdvd : 2 ^ (-e).toNat ∣ m * 2 ^ e.toNat := by
      have hsigned : ((2 ^ (-e).toNat : Nat) : ℤ) ∣ s.apply ((m * 2 ^ e.toNat : Nat) : ℤ) :=
        ⟨n, by rw [h, mul_comm]⟩
      rw [← Int.natCast_dvd_natCast]
      cases s with
      | positive => exact hsigned
      | negative => exact dvd_neg.1 hsigned
    refine ⟨hdvd, ?_⟩
    obtain ⟨k, hk⟩ := hdvd
    rw [hk, Nat.mul_div_cancel_left _ hpos]
    rw [hk, Nat.cast_mul, mul_comm, apply_mul] at h
    exact mul_right_cancel₀ (by exact_mod_cast hpos.ne') h
  · rintro ⟨⟨k, hk⟩, rfl⟩
    rw [hk, Nat.mul_div_cancel_left _ hpos, Nat.cast_mul, mul_comm, apply_mul]

/-- A double reads as an integer if it is that integer. -/
theorem toInt?_eq_some_iff {x : Float} {n : ℤ} : toInt? x = some n ↔ number? x = some (n : ℚ) := by
  unfold toInt? truncate? isInteger number?
  change (if _ then (if x.toModel.unpack.isFinite = true then _ else _) else _) = _ ↔ _
  cases x.toModel.unpack with
  | notANumber | infinity s => simp [numberOf?]
  | zero s => simp [numberOf?, UnpackedFloat.isFinite, UnpackedFloat.toInt, eq_comm]
  | finite s m e hm =>
    rw [numberOf?_finite_eq_int, ← isInteger_finite_iff]
    simp [UnpackedFloat.isFinite, UnpackedFloat.toInt]

/-! ## Digits and exponents -/

theorem append_one (b : BitVec 52) : (1#1 ++ b).toNat = 2 ^ 52 + b.toNat := by
  rw [BitVec.toNat_append, ← Nat.shiftLeft_add_eq_or_of_lt b.isLt]
  rfl

/-- A finite number as the format keeps it: with all digits it may have. -/
def InFormat : UnpackedFloat → Prop
  | .finite _ m e _ => m < 2 ^ 53 ∧ (2 ^ 52 ≤ m ∨ e = -1074) ∧ -1074 ≤ e ∧ e ≤ 971
  | _ => True

theorem inFormat_unpack (b : BitVec binary64.numBits) : InFormat (unpack binary64 b) := by
  unfold unpack
  dsimp only
  split
  · split <;> trivial
  · next hinf =>
    have hexp : (unpackExponent b).toNat ≠ 2047 := fun h => hinf (BitVec.eq_of_toNat_eq h)
    have hexplt : (unpackExponent b).toNat < 2048 := (unpackExponent b).isLt
    have hmant : (unpackMantissa b).toNat < 2 ^ 52 := (unpackMantissa b).isLt
    split
    · split
      · trivial
      · next hzero _ =>
        have hexp0 : (unpackExponent b).toNat = 0 := congrArg BitVec.toNat hzero
        change (unpackMantissa b).toNat < 2 ^ 53 ∧
          (2 ^ 52 ≤ (unpackMantissa b).toNat ∨ ((unpackExponent b).toNat : ℤ) - 1075 + 1 = -1074) ∧
          -1074 ≤ ((unpackExponent b).toNat : ℤ) - 1075 + 1 ∧
          ((unpackExponent b).toNat : ℤ) - 1075 + 1 ≤ 971
        omega
    · next hzero =>
      have hexp0 : (unpackExponent b).toNat ≠ 0 := fun h => hzero (BitVec.eq_of_toNat_eq h)
      change (1#1 ++ unpackMantissa b).toNat < 2 ^ 53 ∧
        (2 ^ 52 ≤ (1#1 ++ unpackMantissa b).toNat ∨ ((unpackExponent b).toNat : ℤ) - 1075 = -1074) ∧
        -1074 ≤ ((unpackExponent b).toNat : ℤ) - 1075 ∧ ((unpackExponent b).toNat : ℤ) - 1075 ≤ 971
      rw [append_one]
      omega

/-- A finite double is a number of at most 53 binary digits with an exponent in range. -/
theorem exists_of_number? {x : Float} {v : ℚ} (h : number? x = some v) :
    ∃ a e : ℤ, v = a * 2 ^ e ∧ |a| < 2 ^ 53 ∧ -1074 ≤ e ∧ e ≤ 971 ∧ (HasEvenSignificand x → a % 2 = 0) := by
  have hformat : InFormat x.toModel.unpack := inFormat_unpack _
  unfold number? at h
  unfold HasEvenSignificand
  cases hx : x.toModel.unpack with
  | notANumber | infinity s =>
    rw [hx] at h
    exact nomatch h
  | zero s =>
    rw [hx] at h
    refine ⟨0, 0, ?_, by decide, by decide, by decide, fun _ => rfl⟩
    rw [← Option.some.inj h, Int.cast_zero, zero_mul]
  | finite s m e hm =>
    rw [hx] at h hformat
    obtain ⟨hlt, -, hlow, hhigh⟩ := hformat
    refine ⟨s.apply m, e, (Option.some.inj h).symm, ?_, hlow, hhigh, ?_⟩
    · rw [abs_lt]
      cases s <;> simp only [Sign.apply] <;> omega
    · intro heven
      cases s <;> simp only [Sign.apply] <;> omega

/-! ## Doubles that are the same number -/

/-- Of two ways to write a number, the one that uses all digits it may has the lesser exponent. -/
theorem exponent_le {m m' : Nat} {e e' : ℤ} (hm : m < 2 ^ 53) (he : -1074 ≤ e)
    (hfull : 2 ^ 52 ≤ m' ∨ e' = -1074) (h : (m : ℚ) * 2 ^ e = m' * 2 ^ e') : e' ≤ e := by
  by_contra hlt
  rw [not_le] at hlt
  have hm' : 2 ^ 52 ≤ m' := hfull.resolve_right (by omega)
  rw [two_zpow_of_le hlt.le, ← mul_assoc] at h
  have hdigits : m = m' * 2 ^ (e' - e).toNat := by
    exact_mod_cast mul_right_cancel₀ (zpow_ne_zero e two_ne_zero) h
  have htwo : 2 ^ 1 ≤ 2 ^ (e' - e).toNat := Nat.pow_le_pow_right (by decide) (by omega)
  have hbeyond : 2 ^ 52 * 2 ^ 1 ≤ m' * 2 ^ (e' - e).toNat := Nat.mul_le_mul hm' htwo
  omega

theorem eq_of_numberOf? {u u' : UnpackedFloat} {v : ℚ} (hu : InFormat u) (hu' : InFormat u')
    (h : numberOf? u = some v) (h' : numberOf? u' = some v) (hv : v ≠ 0) : u = u' := by
  match u, u' with
  | .notANumber, _ | .infinity _, _ => exact nomatch h
  | _, .notANumber | _, .infinity _ => exact nomatch h'
  | .zero _, _ => exact absurd (Option.some.inj h).symm hv
  | _, .zero _ => exact absurd (Option.some.inj h').symm hv
  | .finite s m e hm, .finite s' m' e' hm' =>
    obtain ⟨hlt, hfull, hlow, -⟩ := hu
    obtain ⟨hlt', hfull', hlow', -⟩ := hu'
    have hvalue : ((s.apply m : ℤ) : ℚ) * 2 ^ e = (s'.apply m' : ℤ) * 2 ^ e' :=
      (Option.some.inj h).trans (Option.some.inj h').symm
    have hpow : (0 : ℚ) < 2 ^ e := by positivity
    have hpow' : (0 : ℚ) < 2 ^ e' := by positivity
    have hpos : (0 : ℚ) < m * 2 ^ e := mul_pos (by exact_mod_cast hm) hpow
    have hpos' : (0 : ℚ) < m' * 2 ^ e' := mul_pos (by exact_mod_cast hm') hpow'
    have hsame : s = s' ∧ (m : ℚ) * 2 ^ e = m' * 2 ^ e' := by
      cases s <;> cases s' <;> simp only [Sign.apply] at hvalue <;> push_cast at hvalue
      · exact ⟨rfl, by linarith⟩
      · linarith
      · linarith
      · exact ⟨rfl, hvalue⟩
    obtain ⟨rfl, hsame⟩ := hsame
    obtain rfl : e = e' := le_antisymm (exponent_le hlt' hlow' hfull hsame.symm)
      (exponent_le hlt hlow hfull' hsame)
    obtain rfl : m = m' := by exact_mod_cast mul_right_cancel₀ hpow.ne' hsame
    rfl

theorem eq_of_unpack {x y : Float} (h : x.toModel.unpack = y.toModel.unpack) : x = y := by
  obtain ⟨⟨bits, hvalid⟩⟩ := x
  obtain ⟨⟨bits', hvalid'⟩⟩ := y
  have hbits : bits.toBitVec = bits'.toBitVec := (unpack_inj_of_valid hvalid hvalid').1 h
  obtain rfl : bits = bits' := UInt64.toBitVec_inj.1 hbits
  rfl

/-- A double is determined by the number that it is, but for the sign of zero. -/
theorem eq_of_number? {x y : Float} {v : ℚ} (hx : number? x = some v) (hy : number? y = some v)
    (hv : v ≠ 0) : x = y :=
  eq_of_unpack (eq_of_numberOf? (inFormat_unpack _) (inFormat_unpack _) hx hy hv)

/-! ## Packing -/

theorem unpack_ofUnpacked {s : Sign} {m : Nat} {e : ℤ} (hm : 0 < m) (hlow : 2 ^ 52 ≤ m) (hhigh : m < 2 ^ 53)
    (he : -1074 ≤ e) (he' : e ≤ 971) :
    (ofUnpacked (.finite s m e hm)).toModel.unpack = .finite s m e hm := by
  change unpack binary64 (pack binary64 (.finite s m e hm)) = _
  have hlog : m.log2 + 1 = binary64.mantissaBits := by
    change m.log2 + 1 = 53
    rw [(Nat.log2_eq_iff hm.ne').2 ⟨hlow, hhigh⟩]
  have hbiased : ¬ 2 ^ 11 ≤ (e + binary64.exponentBias + (52 : Nat)).toNat + 1 := by
    change ¬ 2048 ≤ (e + 1023 + 52).toNat + 1
    omega
  have hexp : (BitVec.ofNat 11 (e + binary64.exponentBias + (52 : Nat)).toNat).toNat = (e + 1075).toNat := by
    change (e + 1023 + 52).toNat % 2048 = _
    omega
  have hmant : (1#1 ++ BitVec.ofNat 52 m).toNat = m := by
    rw [append_one, BitVec.toNat_ofNat]
    omega
  simp only [pack]
  rw [if_neg hbiased, if_pos hlog]
  simp only [unpack, unpackExponent_packComponents, unpackMantissa_packComponents,
    unpackSign_packComponents, Sign.ofBitVec_toBitVec]
  rw [if_neg, if_neg]
  · congr 1
    change ((BitVec.ofNat 11 (e + binary64.exponentBias + (52 : Nat)).toNat).toNat : ℤ) - 1075 = e
    rw [hexp]
    omega
  · intro hzero
    have h := congrArg BitVec.toNat hzero
    rw [hexp] at h
    change (e + 1075).toNat = 0 at h
    omega
  · intro hinf
    have h := congrArg BitVec.toNat hinf
    rw [hexp] at h
    change (e + 1075).toNat = 2047 at h
    omega

theorem not_isFinite_ofUnpacked {s : Sign} {m : Nat} {e : ℤ} (hm : 0 < m) (he : 972 ≤ e) :
    (ofUnpacked (.finite s m e hm)).isFinite = false := by
  change (unpack binary64 (pack binary64 (.finite s m e hm))).isFinite = false
  have hbiased : 2 ^ 11 ≤ (e + binary64.exponentBias + (52 : Nat)).toNat + 1 := by
    change 2048 ≤ (e + 1023 + 52).toNat + 1
    omega
  simp only [pack]
  rw [if_pos hbiased]
  cases s <;> rfl

end Exif.Double
