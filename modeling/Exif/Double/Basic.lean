/-!
Conversions between integers, quotients and doubles. Every rounding goes to the nearest double, a
tie to the one with the even significand, and starts from the exact number.
-/

namespace Exif.Double

open Float.Model (UnpackedFloat)
open Float.Model.UnpackedFloat (Sign)
open Float.Model.Format (binary64)

def ofUnpacked (u : UnpackedFloat) : Float := .ofModel (.pack u)

/-- Negative for `true`. -/
def sign (negative : Bool) : Sign := if negative then .negative else .positive

def ofInt (n : Int) : Float := .ofModel (.ofInt n)

def ofInt? (n : Int) : Option Float :=
  if (ofInt n).isFinite then some (ofInt n) else none

/-- The double nearest to `num / den`, infinite beyond the range. A zero quotient has the sign that
the signs of the two numbers give. -/
def quotient (num den : Int) : Float :=
  let s := sign (decide (num < 0) != decide (den < 0))
  if hd : 0 < den.natAbs then
    if hn : 0 < num.natAbs then
      ofUnpacked (.div binary64 (.finite s num.natAbs 0 hn) (.finite .positive den.natAbs 0 hd))
    else ofUnpacked (.zero s)
  else ofUnpacked (if num = 0 then .notANumber else .infinity s)

def quotient? (num den : Int) : Option Float :=
  if (quotient num den).isFinite then some (quotient num den) else none

/-- The integer part of a finite double: digits after the point are dropped. -/
def truncate? (x : Float) : Option Int :=
  if x.isFinite then some (x.toModel.unpack.toInt 0 0) else none

def isInteger (x : Float) : Bool :=
  match x.toModel.unpack with
  | .zero _ => true
  | .finite _ m e _ => 0 ≤ e || m % Nat.pow 2 (-e).toNat == 0
  | _ => false

def toInt? (x : Float) : Option Int :=
  if isInteger x then truncate? x else none

end Exif.Double
