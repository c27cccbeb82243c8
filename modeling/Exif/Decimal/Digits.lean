/-!
Decimal digits of positive binary numbers `m * 2 ^ e`: the fewest digits that read back as the same
double, and a given number of digits, both computed exactly.
-/

namespace Exif.Decimal

/-- The number `d.ddd × 10 ^ exponent`, by its digits without the point. -/
structure Digits where
  digits : List Char
  exponent : Int
deriving Repr, DecidableEq

def digitsOf (n : Nat) : List Char := Nat.toDigits 10 n

def integer (n : Int) : String :=
  String.ofList ((if n < 0 then ['-'] else []) ++ digitsOf n.natAbs)

/-- The greatest number of digits of an integer that is read or written. -/
def maxDigits : Nat := 4300

def isWritable (n : Int) : Bool := (digitsOf n.natAbs).length ≤ maxDigits

/-- The least number of more than `k` digits. -/
def leastBeyond (k : Nat) : Nat := Nat.pow 10 k

theorem length_digitsOf_le_iff {n k : Nat} (h : 0 < k) :
    (digitsOf n).length ≤ k ↔ n < leastBeyond k :=
  Nat.length_toDigits_le_iff (by decide) h

theorem isWritable_iff {n : Int} : isWritable n = true ↔ n.natAbs < leastBeyond maxDigits := by
  rw [isWritable, decide_eq_true_iff, length_digitsOf_le_iff (by decide)]

def unwritableMessage : String :=
  "Exceeds the limit (" ++ integer maxDigits ++
    " digits) for integer string conversion; use sys.set_int_max_str_digits() to increase the limit"

/-- `num / den` rounded to an integer, a half to the even neighbour. -/
def roundDiv (num den : Nat) : Nat :=
  let q := num / den
  match compare (2 * (num % den)) den with
  | .lt => q
  | .eq => q + q % 2
  | .gt => q + 1

def powerParts (base : Nat) (e : Int) : Nat × Nat := (base.pow e.toNat, base.pow (-e).toNat)

def leadingExponent (num den : Nat) : Int :=
  let guess : Int := (digitsOf num).length - (digitsOf den).length
  let (above, below) := powerParts 10 guess
  if above * den ≤ num * below then guess else guess - 1

/-- The number `c * 10 ^ u`, without trailing zeros. -/
def Digits.ofScaled (c : Nat) (u : Int) : Digits :=
  let ds := digitsOf c
  { digits := (ds.reverse.dropWhile (· == '0')).reverse
    exponent := u + ds.length - 1 }

/-! ## A given number of digits -/

/-- The first `n` digits of `num / den`, rounded, a half to the even neighbour. -/
def rounded (n : Nat) (num den : Nat) : Digits :=
  let k := leadingExponent num den
  let (above, below) := powerParts 10 (k - n + 1)
  let c := roundDiv (num * below) (den * above)
  let ds := digitsOf c
  { digits := ds.take n, exponent := k + (ds.length - n) }

/-- `num / den` with `places` digits after the point, rounded, a half to the even neighbour: the
digits before the point and those after it. -/
def fixed (places : Nat) (num den : Nat) : List Char × List Char :=
  let ds := digitsOf (roundDiv (num * Nat.pow 10 places) den)
  let ds := List.replicate (places + 1 - ds.length) '0' ++ ds
  ds.splitAt (ds.length - places)

/-! ## The fewest digits that read back -/

/-- Four times the distance from a double down to the end of the numbers that round to it, in its
last binary place: a half place, or a quarter above a power of two. -/
def gapBelow (m : Nat) (e : Int) : Nat := if m = Nat.pow 2 52 ∧ -1074 < e then 1 else 2

/-- The multiple of `10 ^ u` that reads back as the double `m * 2 ^ e`, by its factor. Of the two
neighbours the nearer is taken, of two equally near ones the even. The ends of the rounding
interval belong to it when `m` is even. -/
def onGrid? (m : Nat) (e : Int) (u : Int) : Option Nat :=
  let (above, below) := powerParts 2 (e - 2)
  let (unitAbove, unitBelow) := powerParts 10 u
  let scale := above * unitBelow
  let unit := below * unitAbove
  let value := 4 * m * scale
  let low := (4 * m - gapBelow m e) * scale
  let high := (4 * m + 2) * scale
  let inside (c : Nat) : Bool :=
    if m % 2 = 0 then low ≤ c * unit && c * unit ≤ high else low < c * unit && c * unit < high
  let c := value / unit
  match inside c, inside (c + 1) with
  | true, true => some (roundDiv value unit)
  | true, false => some c
  | false, true => some (c + 1)
  | false, false => none

/-- The fewest decimal digits that read back as the double `m * 2 ^ e`; seventeen always do. -/
def shortest (m : Nat) (e : Int) : Digits :=
  let (num, den) := (m * (powerParts 2 e).1, (powerParts 2 e).2)
  let k := leadingExponent num den
  let grid (n : Nat) : Option Digits :=
    (onGrid? m e (k - n)).map fun c => .ofScaled c (k - n)
  ((List.range 17).findSome? grid).getD (rounded 17 num den)

end Exif.Decimal
