import Exif.Proofs.Double.Number

/-! Numbers of 53 binary digits nearest to a given one. A multiple of the last of the 53 places that is off
by half a place at most is nearest, ties go to the even significand, and so there is only one. Below a
threshold the nearest number is a double, and from it on it never is. -/

namespace Exif.Double

open Float.Model.UnpackedFloat

/-- A number of at most 53 binary digits, no finer than the least double: a double, but for the greatest
exponent. -/
def IsBinary53 (q : ℚ) : Prop := ∃ m e : ℤ, |m| < 2 ^ 53 ∧ -1074 ≤ e ∧ q = m * 2 ^ e

/-- `v` is as near to `q` as any such number, and where another is as near it has an even significand. -/
def Nearest (q v : ℚ) (even : Prop) : Prop :=
  ∀ w, IsBinary53 w → |v - q| ≤ |w - q| ∧ (|w - q| = |v - q| → w = v ∨ even)

theorem nearest_self (q : ℚ) (even : Prop) : Nearest q q even := by
  intro w _
  rw [sub_self, abs_zero]
  exact ⟨abs_nonneg _, fun h => Or.inl (sub_eq_zero.1 (abs_eq_zero.1 h))⟩

theorem Nearest.mono {q v : ℚ} {even even' : Prop} (h : Nearest q v even) (himp : even → even') :
    Nearest q v even' :=
  fun w hw => ⟨(h w hw).1, fun heq => ((h w hw).2 heq).imp_right himp⟩

theorem Nearest.neg {q v : ℚ} {even : Prop} (h : Nearest q v even) : Nearest (-q) (-v) even := by
  have habs (w : ℚ) : |w - -q| = |-w - q| := by
    rw [← abs_neg]
    congr 1
    ring
  rintro w ⟨m, e, hm, he, hw⟩
  obtain ⟨hle, htie⟩ := h (-w) ⟨-m, e, by rwa [abs_neg], he, by rw [hw]; push_cast; ring⟩
  rw [habs, habs, neg_neg]
  exact ⟨hle, fun heq => (htie heq).imp_left fun h => by rw [← h, neg_neg]⟩

theorem Nearest.apply {q v : ℚ} {even : Prop} (h : Nearest q v even) (s : Sign) :
    Nearest (s.apply 1 * q) (s.apply 1 * v) even := by
  cases s with
  | positive => simpa [Sign.apply] using h
  | negative => simpa [Sign.apply] using h.neg

/-- Zero is nearest to no positive integer: one is nearer. -/
theorem Nearest.ne_zero {n : ℤ} {v : ℚ} {even : Prop} (h : Nearest n v even) (hn : 0 < n) : v ≠ 0 := by
  rintro rfl
  have hone := (h 1 ⟨1, 0, by decide, by decide, by norm_num⟩).1
  have hle : (1 : ℚ) ≤ n := by exact_mod_cast hn
  rw [zero_sub, abs_neg, abs_of_nonneg (by linarith), abs_of_nonpos (by linarith)] at hone
  linarith

/-! ## Rounding to a place -/

theorem half_le_of_multiple {q u : ℚ} (hu : 0 < u) {r z : ℤ} (hhalf : 2 * |r * u - q| ≤ u)
    (hne : z ≠ r) : u ≤ 2 * |z * u - q| := by
  have hone : (1 : ℚ) ≤ |(z : ℚ) - r| := by exact_mod_cast Int.one_le_abs (sub_ne_zero.2 hne)
  have hapart : u ≤ |z * u - r * u| := by
    rw [← sub_mul, abs_mul, abs_of_pos hu]
    exact le_mul_of_one_le_left hu.le hone
  have hsplit : |z * u - r * u| ≤ |z * u - q| + |r * u - q| := by
    rw [abs_sub_comm (r * u) q]
    exact abs_sub_le _ _ _
  linarith

/-- A multiple of the last binary place of `q` that is off by half a place at most is nearest. -/
theorem nearest_of_half {q : ℚ} {r t : ℤ} (hlow : 2 ^ 52 * (2 : ℚ) ^ t ≤ q)
    (hhalf : 2 * |r * (2 : ℚ) ^ t - q| ≤ 2 ^ t) (htie : 2 * |r * (2 : ℚ) ^ t - q| = 2 ^ t → r % 2 = 0) :
    Nearest q (r * 2 ^ t) (r % 2 = 0) := by
  have hu : (0 : ℚ) < 2 ^ t := by positivity
  rintro w ⟨m, e, hm, -, rfl⟩
  rcases Int.lt_or_le e t with het | het
  · -- a finer number lies below `2 ^ 52` places, and so farther away than that many
    have hm' : (m : ℚ) < 2 ^ 53 := by exact_mod_cast (abs_lt.1 hm).2
    have hpow : (2 : ℚ) ^ e ≤ 2 ^ (t - 1) := zpow_le_zpow_right₀ one_le_two (by omega)
    have htwo : (2 : ℚ) ^ t = 2 ^ (t - 1) * 2 := by
      rw [← zpow_add_one₀ two_ne_zero, sub_add_cancel]
    have hbelow : (m : ℚ) * 2 ^ e < 2 ^ 52 * 2 ^ t := by
      have he : (0 : ℚ) < 2 ^ e := by positivity
      nlinarith
    have hfar : |(r : ℚ) * 2 ^ t - q| ≤ |((2 ^ 52 : ℤ) : ℚ) * 2 ^ t - q| := by
      by_cases hr : (2 ^ 52 : ℤ) = r
      · rw [hr]
      · linarith [half_le_of_multiple hu hhalf hr]
    rw [abs_of_nonpos (a := ((2 ^ 52 : ℤ) : ℚ) * 2 ^ t - q) (by push_cast; linarith)] at hfar
    push_cast at hfar
    have hdist : |(m : ℚ) * 2 ^ e - q| = q - m * 2 ^ e := by
      rw [abs_of_nonpos (by linarith)]
      ring
    rw [hdist]
    exact ⟨by linarith, fun h => absurd h (by linarith)⟩
  · obtain ⟨z, hz⟩ : ∃ z : ℤ, (m : ℚ) * 2 ^ e = z * 2 ^ t := by
      refine ⟨m * 2 ^ (e - t).toNat, ?_⟩
      push_cast
      rw [two_zpow_of_le het, mul_assoc]
    rw [hz]
    by_cases hr : z = r
    · rw [hr]
      exact ⟨le_rfl, fun _ => Or.inl rfl⟩
    · have hfar := half_le_of_multiple hu hhalf hr
      exact ⟨by linarith, fun h => Or.inr (htie (by linarith))⟩

/-! ## Ties -/

/-- A nearest number is not mirrored at `q` by one that lies two places above it or more. -/
theorem not_mirrored {q : ℚ} {a c e : ℤ} {even : Prop} (h : Nearest q (a * 2 ^ e) even) (ha : |a| < 2 ^ 53)
    (he : -1074 ≤ e) (hpar : a % 2 = 0) (hac : a + 2 ≤ c) :
    (c : ℚ) * 2 ^ e - q ≠ -(a * 2 ^ e - q) := by
  intro hmirror
  have hu : (0 : ℚ) < 2 ^ e := by positivity
  rw [abs_lt] at ha
  have hnear := (h (((a + 1 : ℤ) : ℚ) * 2 ^ e) ⟨a + 1, e, abs_lt.2 ⟨by omega, by omega⟩, he, rfl⟩).1
  have hapart : ((a + 2 : ℤ) : ℚ) * 2 ^ e ≤ c * 2 ^ e :=
    mul_le_mul_of_nonneg_right (Int.cast_le.2 hac) hu.le
  push_cast at hnear hapart
  rw [abs_of_neg (by linarith), abs_of_nonpos (by linarith)] at hnear
  linarith

/-- Two numbers with even significands cannot be tied: the one with the finer places has a neighbour
between them. -/
theorem not_tied {q : ℚ} {a b e f : ℤ} {even : Prop} (h : Nearest q (a * 2 ^ e) even) (ha : |a| < 2 ^ 53)
    (he : -1074 ≤ e) (hef : e ≤ f) (hpar : a % 2 = 0) (hpar' : b % 2 = 0)
    (htie : |(b : ℚ) * 2 ^ f - q| = |(a : ℚ) * 2 ^ e - q|) : (a : ℚ) * 2 ^ e = b * 2 ^ f := by
  obtain ⟨c, hc, hpar''⟩ : ∃ c : ℤ, (b : ℚ) * 2 ^ f = c * 2 ^ e ∧ c % 2 = 0 := by
    refine ⟨b * 2 ^ (f - e).toNat, ?_, by rw [Int.mul_emod, hpar', zero_mul, Int.zero_emod]⟩
    push_cast
    rw [two_zpow_of_le hef, mul_assoc]
  rw [hc] at htie ⊢
  by_contra hne
  have hca : c ≠ a := fun heq => hne (by rw [heq])
  have hmiddle : (c : ℚ) * 2 ^ e - q = -(a * 2 ^ e - q) :=
    (abs_eq_abs.1 htie).resolve_left fun heq => hne (by linarith)
  rcases lt_or_gt_of_ne hca with hlt | hgt
  · have hopposite := h.neg
    rw [← neg_mul, ← Int.cast_neg] at hopposite
    refine not_mirrored hopposite (by rwa [abs_neg]) he (by omega) (show -a + 2 ≤ -c by omega) ?_
    push_cast
    linarith
  · exact not_mirrored h ha he hpar (by omega) hmiddle

/-! ## The end of the range -/

/-- The least integer that rounds beyond the doubles. -/
def threshold : ℤ := 2 ^ 1024 - 2 ^ 970

theorem threshold_eq : (threshold : ℚ) = (2 ^ 54 - 1) * 2 ^ (970 : ℤ) := by
  have hpow : (2 : ℚ) ^ 1024 = 2 ^ 54 * 2 ^ 970 := pow_add 2 54 970
  rw [threshold, Int.cast_sub, Int.cast_pow, Int.cast_pow, Int.cast_ofNat, hpow,
    show (970 : ℤ) = (970 : Nat) from rfl, zpow_natCast]
  generalize (2 : ℚ) ^ 970 = p
  ring

theorem two_zpow_971 : (2 : ℚ) ^ (971 : ℤ) = 2 * 2 ^ (970 : ℤ) := by
  rw [show (971 : ℤ) = 970 + 1 from rfl, zpow_add_one₀ two_ne_zero, mul_comm]

theorem two_zpow_972 : (2 : ℚ) ^ (972 : ℤ) = 4 * 2 ^ (970 : ℤ) := by
  rw [show (972 : ℤ) = 970 + 2 from rfl, zpow_add₀ two_ne_zero, mul_comm]
  norm_num

/-- The greatest double. -/
theorem isBinary53_greatest : IsBinary53 ((2 ^ 54 - 2) * 2 ^ (970 : ℤ)) := by
  refine ⟨2 ^ 53 - 1, 971, by norm_num, by decide, ?_⟩
  rw [two_zpow_971]
  generalize (2 : ℚ) ^ (970 : ℤ) = p
  push_cast
  ring

/-- The number that would come after it. -/
theorem isBinary53_next : IsBinary53 (2 ^ 54 * 2 ^ (970 : ℤ)) := by
  refine ⟨2 ^ 52, 972, by norm_num, by decide, ?_⟩
  rw [two_zpow_972]
  generalize (2 : ℚ) ^ (970 : ℤ) = p
  push_cast
  ring

theorem threshold_le_of_nearest {n m : Nat} {e : ℤ} {even : Prop} (hm : 2 ^ 52 ≤ m) (he : 972 ≤ e)
    (h : Nearest n (m * 2 ^ e) even) : threshold ≤ n := by
  have hgreatest := (h _ isBinary53_greatest).1
  have hpos : (0 : ℚ) < 2 ^ (970 : ℤ) := by positivity
  have hm' : (2 : ℚ) ^ 52 ≤ m := by exact_mod_cast hm
  have hpow : (2 : ℚ) ^ (972 : ℤ) ≤ 2 ^ e := zpow_le_zpow_right₀ one_le_two he
  have hvalue : (2 : ℚ) ^ 52 * 2 ^ (972 : ℤ) ≤ m * 2 ^ e := by gcongr
  rw [two_zpow_972] at hvalue
  rw [← Int.cast_le (R := ℚ), Int.cast_natCast, threshold_eq]
  generalize (2 : ℚ) ^ (970 : ℤ) = p at *
  generalize (m : ℚ) * 2 ^ e = v at *
  by_contra hlt
  rw [not_le] at hlt
  rw [abs_of_pos (by linarith)] at hgreatest
  rcases abs_cases ((2 ^ 54 - 2) * p - (n : ℚ)) with ⟨habs, -⟩ | ⟨habs, -⟩ <;> linarith

/-- The greatest double has an odd significand. -/
theorem odd_of_greatest {a e : ℤ} (ha : a < 2 ^ 53) (he : e ≤ 971)
    (h : (2 ^ 54 - 2) * 2 ^ (970 : ℤ) ≤ (a : ℚ) * 2 ^ e) : a % 2 ≠ 0 := by
  have hpos : (0 : ℚ) < 2 ^ (970 : ℤ) := by positivity
  have hpow : (2 : ℚ) ^ e ≤ 2 ^ (971 : ℤ) := zpow_le_zpow_right₀ one_le_two he
  have ha' : (0 : ℚ) ≤ a := by
    refine (pos_of_mul_pos_left (lt_of_lt_of_le ?_ h) (by positivity)).le
    exact mul_pos (by norm_num) hpos
  have hle : (2 ^ 54 - 2) * 2 ^ (970 : ℤ) ≤ (a : ℚ) * (2 * 2 ^ (970 : ℤ)) := by
    rw [← two_zpow_971]
    exact h.trans (mul_le_mul_of_nonneg_left hpow ha')
  have hmant : ((2 ^ 53 - 1 : ℤ) : ℚ) ≤ a := by
    push_cast
    generalize (2 : ℚ) ^ (970 : ℤ) = p at *
    by_contra hlt
    rw [not_le] at hlt
    nlinarith
  have hmant' : 2 ^ 53 - 1 ≤ a := Int.cast_le.1 hmant
  omega

/-- An integer to which a double is nearest is below the threshold. -/
theorem lt_threshold_of_nearest {n a e : ℤ} (ha : a < 2 ^ 53) (he : e ≤ 971)
    (h : Nearest n (a * 2 ^ e) (a % 2 = 0)) : n < threshold := by
  obtain ⟨hnext, htie⟩ := h _ isBinary53_next
  have hpos : (0 : ℚ) < 2 ^ (970 : ℤ) := by positivity
  have hpow : (2 : ℚ) ^ e ≤ 2 ^ (971 : ℤ) := zpow_le_zpow_right₀ one_le_two he
  have ha' : (a : ℚ) ≤ 2 ^ 53 - 1 := by
    have hle : a ≤ 2 ^ 53 - 1 := by omega
    exact_mod_cast hle
  have hvalue : (a : ℚ) * 2 ^ e ≤ (2 ^ 54 - 2) * 2 ^ (970 : ℤ) := by
    calc (a : ℚ) * 2 ^ e ≤ (2 ^ 53 - 1) * 2 ^ (971 : ℤ) :=
          mul_le_mul ha' hpow (by positivity) (by norm_num)
      _ = (2 ^ 54 - 2) * 2 ^ (970 : ℤ) := by
        rw [two_zpow_971]
        ring
  by_contra hle
  have hge : (threshold : ℚ) ≤ (n : ℚ) := Int.cast_le.2 (not_lt.1 hle)
  rw [threshold_eq] at hge
  have hodd := odd_of_greatest ha he
  generalize (2 : ℚ) ^ (970 : ℤ) = p at *
  generalize (a : ℚ) * 2 ^ e = v at *
  rw [abs_of_neg (a := v - n) (by linarith)] at hnext htie
  -- only the tie between the greatest double and the next number is left
  rcases abs_cases (2 ^ 54 * p - (n : ℚ)) with ⟨habs, -⟩ | ⟨habs, -⟩
  · rw [habs] at hnext htie
    rcases htie (by linarith) with heq | heven
    · linarith
    · exact hodd (by linarith) heven
  · linarith

end Exif.Double
