import Exif.Path
import Mathlib.Data.List.Lex
import Mathlib.Data.String.Basic

/-! The order of paths is the lexicographic order of their components, and so it is a total one. -/

namespace Exif.Path

theorem precedes_iff_lt {as bs : List String} : precedes as bs = true ↔ as < bs := by
  induction as generalizing bs with
  | nil => cases bs <;> simp [precedes]
  | cons a as ih =>
    cases bs with
    | nil => simp [precedes]
    | cons b bs =>
      rw [precedes, List.cons_lt_cons_iff]
      split
      · next heq =>
        rw [ih]
        simp [heq]
      · next hne => simp [hne]

theorem not_precedes_iff_le {as bs : List String} : (!precedes bs as) = true ↔ as ≤ bs := by
  rw [Bool.not_eq_true', ← Bool.not_eq_true, precedes_iff_lt, not_lt]

end Exif.Path
