import Exif.Double.Basic

/-!
Powers of two, binary logarithms and the length of a right triangle's long side.
-/

namespace Exif.Double

open Float.Model (UnpackedFloat)
open Float.Model.Format (binary64)

/-! ## Powers of two and binary logarithms -/

/-- Two to the power of a double, or nothing if the exponent is finite and the power lies beyond
the doubles. Powers far below the least positive double are zero. -/
def exp2? (x : Float) : Option Float :=
  if x.isFinite && 1024 ≤ x then none
  else if x < -1100 then some 0
  else some (Float.pow 2 x)

def log2 (x : Float) : Float := x.log2

/-! ## The long side of a right triangle -/

def magnitude (x : Float) : Nat × Int :=
  match x.toModel.unpack with
  | .finite _ m e _ => (m, e)
  | _ => (0, 0)

/-- The exponent of the least positive double, of which every finite double is a multiple. -/
def leastExponent : Int := -1074

def least : Float := ofUnpacked (.finite .positive 1 leastExponent (by decide))

/-- The magnitude of a finite double in multiples of the least one. -/
def units (x : Float) : Nat :=
  let (m, e) := magnitude x
  m * Nat.pow 2 (e - leastExponent).toNat

/-- The square root of `m * 2 ^ e`, rounded to a double. -/
def root (m : Nat) (e : Int) : Float :=
  if h : 0 < m then ofUnpacked (.sqrt binary64 (.finite .positive m e h)) else 0

/-- The long side for two sides in multiples of the least double: the square root of the exact sum
of squares, rounded once. One below the normal doubles is rounded as if it were normal, and then to
a multiple. The shortest are found from the ratio of the sides. -/
def longSide (a b : Nat) : Float :=
  let longer := max a b
  if longer = 0 then 0
  else if longer < Nat.pow 2 50 then
    let ratio := quotient (min a b) longer
    ofInt longer * least * (1 + ratio * ratio).sqrt
  else
    let sum := a * a + b * b
    if sum < Nat.pow 2 104 then root sum 0 * least else root sum (2 * leastExponent)

/-- The length of the vector `(x, y)`. An infinite side makes it infinite, even beside a NaN. -/
def hypot (x y : Float) : Float :=
  if x.isInf || y.isInf then ofUnpacked (.infinity .positive)
  else if x.isNaN || y.isNaN then ofUnpacked .notANumber
  else longSide (units x) (units y)

end Exif.Double
