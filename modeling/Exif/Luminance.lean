import Exif.Exposure

/-!
Brightness and luminance of the scene, from the exposure that the camera chose for it. With the
calibration constant `K`, the luminance is `F² K / (t S)`.
-/

namespace Exif

/-- The calibration constant of reflected light meters. -/
def reflectedLightConstant : Float := 12.5

/-- The result of a part of a composite quantity, an absent tag being reported as lack of data. -/
def asPartOf {α : Type} (quantity : Composite) : Except Failure α → Except Failure α
  | .error (.unavailable (.absent tag)) => .error (.unavailable (.insufficient quantity tag))
  | r => r

namespace TagStore

def brightnessParts (s : TagStore) : Except Failure (Float × Float × Float) := do
  let av ← s.apertureValue
  let tv ← s.timeValue
  let sv ← s.filmSpeedValue
  return (av, tv, sv)

/-- The APEX brightness value: the recorded one, or else `Av + Tv - Sv`. -/
def luminanceValue (s : TagStore) : Except Failure Float := do
  match ← s.double? .brightnessValue with
  | some x => .ok x
  | none =>
    let (av, tv, sv) ← asPartOf .brightness s.brightnessParts
    return av + tv - sv

def luminanceParts (s : TagStore) : Except Failure (Float × Float × Float) := do
  let f ← s.fNumber
  let t ← s.exposureTime
  let speed ← s.iso
  return (f, t, speed)

def divide (x y : Float) : Except Failure Float :=
  if y == 0 then .error .divisionByZero else .ok (x / y)

def averageLuminance (s : TagStore) : Except Failure Float := do
  let (f, t, speed) ← asPartOf .averageLuminance s.luminanceParts
  if t ≤ 0 then .error (illegal .exposureTime (.notPositive t))
  else if speed ≤ 0 then .error (illegal (← s.isoTag) (.notPositive speed))
  else divide (f * f * reflectedLightConstant) (t * speed)

end TagStore

end Exif
