import Exif.Double.Basic
import Mathlib

/-! Integers and quotients of integers that are small enough round to finite doubles. Rounding cuts a
significand to 53 bits and may carry once, so it moves the exponent by at most one; `Fits` is what
remains true of the rounded number, and packing such a number gives a finite double. -/

namespace Exif.Double

open Float.Model (UnpackedFloat totalExponent)
open Float.Model.UnpackedFloat
open Float.Model.Format (binary64)

/-- A number that packing keeps finite. -/
def Fits : UnpackedFloat → Prop
  | .finite _ _ e _ => e ≤ 971
  | .zero _ => True
  | _ => False

theorem isFinite_unpack {b : BitVec binary64.numBits} (h : unpackExponent b ≠ -1#_) :
    (unpack binary64 b).isFinite = true := by
  simp only [unpack, if_neg h]
  split
  · split <;> rfl
  · rfl

theorem isFinite_ofUnpacked {u : UnpackedFloat} (h : Fits u) : (ofUnpacked u).isFinite = true := by
  change (unpack binary64 (pack binary64 u)).isFinite = true
  apply isFinite_unpack
  match u, h with
  | .zero s, _ => cases s <;> simp [pack, packedZero]
  | .finite s m e hm, h =>
    have he : e ≤ 971 := h
    have hb : ¬ 2 ^ 11 ≤ (e + binary64.exponentBias + (52 : Nat)).toNat + 1 := by
      change ¬ 2048 ≤ (e + 1023 + 52).toNat + 1
      omega
    simp only [pack]
    rw [if_neg hb]
    split
    · rw [unpackExponent_packComponents]
      intro hx
      have := congrArg BitVec.toNat hx
      change (e + 1023 + 52).toNat % 2 ^ 11 = 2047 at this
      omega
    · rw [unpackExponent_packComponents]
      decide

/-! ## Rounding -/

theorem shift_mantissa (em : ExtendedMantissa) (k : Nat) :
    (em >>> k).mantissa = em.mantissa / 2 ^ k := by
  induction k with
  | zero => exact (Nat.div_one _).symm
  | succ k ih =>
    change (em >>> k).mantissa / 2 = _
    rw [ih, Nat.div_div_eq_div_mul, Nat.pow_succ]

theorem roundedMantissa_le (em : ExtendedMantissa) : em.roundedMantissa ≤ em.mantissa + 1 := by
  obtain ⟨m, r, s⟩ := em
  cases r <;> cases s <;>
    simp only [ExtendedMantissa.roundedMantissa, ExtendedMantissa.accuracy,
      Accuracy.roundToNearestEven] <;> omega

theorem log2_le_of_lt {m k : Nat} (h : m < 2 ^ (k + 1)) : m.log2 ≤ k := by
  by_cases hm : m = 0
  · rw [hm, Nat.log2_zero]
    exact Nat.zero_le k
  · exact Nat.lt_succ_iff.1 ((Nat.log2_lt hm).2 h)

/-- Shifted so far that at most 53 bits remain, a significand lies below `2 ^ 53`. -/
theorem shifted_lt {m k : Nat} (h : m.log2 ≤ 52 + k) : m / 2 ^ k < 2 ^ 53 := by
  rw [Nat.div_lt_iff_lt_mul (Nat.two_pow_pos k), ← Nat.pow_add]
  exact lt_of_lt_of_le Nat.lt_log2_self (Nat.pow_le_pow_right (by decide) (by omega))

theorem targetExponent_eq (t : Int) : binary64.targetExponent t = max (t - 53) (-1074) := rfl

theorem mantissa_shiftToTarget (m : Nat) (e : Int) (acc : Accuracy) :
    (shiftToTargetExponent binary64 m e acc).1.mantissa =
      m / 2 ^ (binary64.targetExponent (totalExponent m e) - e).toNat := by
  simp only [shiftToTargetExponent, shiftToExponent, shift_mantissa]
  congr 1
  match acc with
  | .exact | .inexact .lt | .inexact .eq | .inexact .gt => rfl

theorem exponent_shiftToTarget (m : Nat) (e : Int) (acc : Accuracy) :
    (shiftToTargetExponent binary64 m e acc).2 = max e (binary64.targetExponent (totalExponent m e)) := by
  simp only [shiftToTargetExponent, shiftToExponent]
  omega

/-- A number of at most 1022 binary places before the point stays finite when it is rounded. -/
theorem fits_roundWithAccuracy {s : Sign} {m k : Nat} {e : Int} {acc : Accuracy}
    (hm : m < 2 ^ k) (hke : k + e ≤ 1022) (he : e ≤ 970) :
    Fits (roundWithAccuracy binary64 s m e acc) := by
  have hlog : m.log2 ≤ k :=
    log2_le_of_lt (lt_trans hm (Nat.pow_lt_pow_right (by decide) (Nat.lt_succ_self k)))
  have hmant := mantissa_shiftToTarget m e acc
  have hexp := exponent_shiftToTarget m e acc
  simp only [targetExponent_eq, totalExponent] at hmant hexp
  set first := shiftToTargetExponent binary64 m e acc
  -- rounding up may carry into a 54th bit, which the second shift takes away again
  have hround : first.1.roundedMantissa < 2 ^ 54 := by
    have := roundedMantissa_le first.1
    have := hmant ▸ shifted_lt (m := m) (k := (max (m.log2 + 1 + e - 53) (-1074) - e).toNat) (by omega)
    omega
  have hlog' := log2_le_of_lt hround
  have hexp' := exponent_shiftToTarget first.1.roundedMantissa first.2 .exact
  simp only [targetExponent_eq, totalExponent] at hexp'
  simp only [roundWithAccuracy]
  split
  · trivial
  · change (shiftToTargetExponent binary64 first.1.roundedMantissa first.2 .exact).2 ≤ 971
    omega

/-! ## Integers and quotients -/

theorem shiftLeft_lt {m k : Nat} (n : Nat) (h : m < 2 ^ k) : m <<< n < 2 ^ (k + n) := by
  rw [Nat.shiftLeft_eq, Nat.pow_add]
  exact Nat.mul_lt_mul_of_pos_right h (Nat.two_pow_pos n)

theorem fits_round {s : Sign} {m k : Nat} (hk : k ≤ 1022) (hm : m < 2 ^ k) :
    Fits (UnpackedFloat.round binary64 s m 0) := by
  simp only [UnpackedFloat.round, decreaseExponent]
  set n := (0 - binary64.targetExponent (totalExponent m 0)).toNat
  exact fits_roundWithAccuracy (shiftLeft_lt n hm) (by omega) (by omega)

theorem isFinite_ofInt {n : Int} {k : Nat} (hk : k ≤ 1022) (h : n.natAbs < 2 ^ k) :
    (ofInt n).isFinite = true := by
  apply isFinite_ofUnpacked
  simp only [UnpackedFloat.ofInt, UnpackedFloat.normalize]
  split
  · exact fits_round hk (by omega)
  · trivial
  · exact fits_round hk (by omega)

theorem ofInt?_eq {n : Int} {k : Nat} (hk : k ≤ 1022) (h : n.natAbs < 2 ^ k) :
    ofInt? n = some (ofInt n) := by
  rw [ofInt?, if_pos (isFinite_ofInt hk h)]

theorem isFinite_quotient {num den : Int} {k : Nat} (hk : k ≤ 1022) (hn : num.natAbs < 2 ^ k)
    (hd : den ≠ 0) : (quotient num den).isFinite = true := by
  have hden : 0 < den.natAbs := by omega
  simp only [quotient, dif_pos hden]
  split
  · next hnum =>
    apply isFinite_ofUnpacked
    simp only [UnpackedFloat.div, divCore]
    set t := min (0 - 0) (binary64.targetExponent
      (totalExponent num.natAbs 0 - totalExponent den.natAbs 0))
    have ht : t ≤ 0 := min_le_left _ _
    set n := (0 - 0 - t).toNat
    have hm : (num.natAbs <<< n) / den.natAbs < 2 ^ (k + n) :=
      lt_of_le_of_lt (Nat.div_le_self _ _) (shiftLeft_lt _ hn)
    exact fits_roundWithAccuracy hm (by omega) (by omega)
  · exact isFinite_ofUnpacked (u := .zero _) trivial

theorem quotient?_eq {num den : Int} {k : Nat} (hk : k ≤ 1022) (hn : num.natAbs < 2 ^ k)
    (hd : den ≠ 0) : quotient? num den = some (quotient num den) := by
  rw [quotient?, if_pos (isFinite_quotient hk hn hd)]

end Exif.Double
