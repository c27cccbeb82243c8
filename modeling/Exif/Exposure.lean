import Exif.Double.Functions
import Exif.TagStore

/-!
Exposure settings. A camera records a setting either as it is (f-number, exposure time in seconds)
or as its APEX logarithm (aperture value, time value); each function here reads the tag of its own
unit, or else derives the value from the other tag.

With the f-number `F`, the exposure time `t` and the speed `S`: `Av = 2 log₂ F`, `Tv = log₂ (1 / t)`
and `Sv = log₂ (N S)`, where `N = 1 / 3.125`.
-/

namespace Exif

/-- The constant that relates arithmetic film speed to the speed value. -/
def filmSpeedConstant : Float := 1 / 3.125

def illegal (tag : Tag) (why : Illegality) : Failure := .unavailable (.illegal tag why)

def powerOfTwo (tag : Tag) (exponent : Float) : Except Failure Float :=
  match Double.exp2? exponent with
  | some x => .ok x
  | none => .error (illegal tag (.outOfRange exponent))

/-- The binary logarithm of a value derived from a tag, which must not be zero or less. -/
def logarithm (tag : Tag) (x : Float) : Except Failure Float :=
  if x ≤ 0 then .error (illegal tag (.notPositive x)) else .ok (Double.log2 x)

namespace TagStore

/-- Reads the first tag, or else converts the second. Only absence passes on to the second, and it
is the second that is reported absent. -/
def firstAvailable (s : TagStore) (own other : Tag) (convert : Float → Except Failure Float) :
    Except Failure Float := do
  match ← s.double? own with
  | some x => .ok x
  | none => convert (← s.double other)

def fNumber (s : TagStore) : Except Failure Float :=
  s.firstAvailable .fNumber .apertureValue fun av => powerOfTwo .apertureValue (av / 2)

def exposureTime (s : TagStore) : Except Failure Float :=
  s.firstAvailable .exposureTime .shutterSpeedValue fun tv => powerOfTwo .shutterSpeedValue (-tv)

def iso (s : TagStore) : Except Failure Float :=
  s.firstAvailable .isoSpeedRatings .exposureIndex .ok

def apertureValue (s : TagStore) : Except Failure Float :=
  s.firstAvailable .apertureValue .fNumber fun f => return 2 * (← logarithm .fNumber f)

def timeValue (s : TagStore) : Except Failure Float :=
  s.firstAvailable .shutterSpeedValue .exposureTime fun t => return -(← logarithm .exposureTime t)

def isoTag (s : TagStore) : Except Failure Tag :=
  return if (← s.double? .isoSpeedRatings).isSome then .isoSpeedRatings else .exposureIndex

/-- The APEX exposure value, `Tv + Av`. -/
def exposureValue (s : TagStore) : Except Failure Float := do
  let tv ← s.timeValue
  let av ← s.apertureValue
  return tv + av

def filmSpeedValue (s : TagStore) : Except Failure Float := do
  let speed ← s.iso
  logarithm (← s.isoTag) (speed * filmSpeedConstant)

end TagStore

end Exif
