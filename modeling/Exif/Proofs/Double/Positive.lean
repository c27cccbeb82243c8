import Exif.Double.Basic

/-! Comparing doubles with zero. What is not zero or less is positive or no number, and a product with
no number is never zero. -/

namespace Exif.Double

open Float.Model (UnpackedFloat)
open Float.Model.UnpackedFloat
open Float.Model.Format (binary64)

theorem unpack_zero : (0 : Float).toModel.unpack = .zero .positive := rfl

theorem le_iff {x y : Float} : x ≤ y ↔ x.toModel.unpack.le y.toModel.unpack = true :=
  decide_eq_true_iff

theorem lt_iff {x y : Float} : x < y ↔ x.toModel.unpack.lt y.toModel.unpack = true :=
  decide_eq_true_iff

theorem not_le_zero_iff {x : Float} : ¬ x ≤ 0 ↔ x.isNaN = true ∨ 0 < x := by
  rw [le_iff, lt_iff, unpack_zero]
  change _ ↔ x.toModel.unpack.isNaN = true ∨ _
  cases x.toModel.unpack with
  | notANumber => decide
  | infinity s => cases s <;> decide
  | zero s => cases s <;> decide
  | finite s m e hm =>
    cases s with
    | positive => exact iff_of_true Bool.false_ne_true (Or.inr rfl)
    | negative => exact iff_of_false (fun hn => hn rfl) (by rintro (h | h) <;> cases h)

/-- What is not zero or less is not zero, and no number is not zero either. -/
theorem ne_zero_of_not_le_zero {x : Float} (h : ¬ x ≤ 0) : (x == 0) = false := by
  rw [le_iff, unpack_zero] at h
  change UnpackedFloat.beq x.toModel.unpack (.zero .positive) = false
  cases hx : x.toModel.unpack with
  | notANumber => rfl
  | infinity s | finite s m e hm => cases s <;> rfl
  | zero s =>
    rw [hx] at h
    exact absurd (by cases s <;> rfl) h

theorem mul_of_isNaN {u v : UnpackedFloat} (h : u.isNaN = true ∨ v.isNaN = true) :
    UnpackedFloat.mul binary64 u v = .notANumber := by
  cases u with
  | notANumber => rfl
  | infinity s | zero s | finite s m e hm =>
    cases v with
    | notANumber => rfl
    | infinity t | zero t | finite t n f hn => rcases h with h | h <;> cases h

theorem product_ne_zero {x y : Float} (h : x.isNaN = true ∨ y.isNaN = true) :
    (x * y == 0) = false := by
  have hmul := mul_of_isNaN (u := x.toModel.unpack) (v := y.toModel.unpack) h
  have hpack : (x * y).toModel.unpack = unpack binary64 (pack binary64 .notANumber) := by
    rw [← hmul]
    rfl
  change UnpackedFloat.beq (x * y).toModel.unpack (0 : Float).toModel.unpack = false
  rw [hpack]
  rfl

/-- The factors of a product that is zero are numbers: each is positive, or it is zero or less. -/
theorem not_le_zero_iff_of_product {x y : Float} (h : (x * y == 0) = true) :
    (¬ x ≤ 0 ↔ 0 < x) ∧ (¬ y ≤ 0 ↔ 0 < y) := by
  have hx : ¬ x.isNaN = true := fun hn => by simp [product_ne_zero (Or.inl hn)] at h
  have hy : ¬ y.isNaN = true := fun hn => by simp [product_ne_zero (Or.inr hn)] at h
  rw [not_le_zero_iff, not_le_zero_iff]
  exact ⟨or_iff_right hx, or_iff_right hy⟩

end Exif.Double
