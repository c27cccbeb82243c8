import Exif.Exposure
import Exif.ResolutionUnit

/-!
The focal length that would give the same picture on 35 mm film. Without a recorded one, the size
of the sensor follows from its pixels and the resolution of the focal plane, and the focal length is
scaled by the ratio of the diagonals.
-/

namespace Exif

/-- The diagonal of a film frame of 36 by 24 mm. -/
def filmDiagonal : Float := Double.hypot 36 24

namespace TagStore

def resolution (s : TagStore) (tag : Tag) : Except Failure Float := do
  let x ← s.double tag
  if x ≤ 0 then .error (illegal tag (.notPositive x)) else .ok x

def resolutionUnitCode (s : TagStore) : Int :=
  (s.int? .focalPlaneResolutionUnit).getD ResolutionUnit.inch.code

/-- The failure over a unit without a length. To report the code it has to be written out. -/
def unitFailure (code : Int) : Failure :=
  if h : Decimal.isWritable code then illegal .focalPlaneResolutionUnit (.unsupportedUnit code h)
  else .unwritableInteger

def resolutionUnitLength (s : TagStore) : Except Failure Float :=
  match (ResolutionUnit.ofCode? s.resolutionUnitCode).bind ResolutionUnit.millimeters with
  | some mm => .ok mm
  | none => .error (unitFailure s.resolutionUnitCode)

/-- The recorded equivalent focal length; zero or less means that it is not known. -/
def recordedEquivalent? (s : TagStore) : Except Failure (Option Float) :=
  return (← s.double? .focalLengthIn35mmFilm).filter (0 < ·)

/-- The equivalent focal length computed from the focal length and the size of the sensor. -/
def computedEquivalent (s : TagStore) : Except Failure Float := do
  let focalLength ← s.double .focalLength
  let xDimension ← s.double .pixelXDimension
  let yDimension ← s.double .pixelYDimension
  let xResolution ← s.resolution .focalPlaneXResolution
  let yResolution ← s.resolution .focalPlaneYResolution
  let unit ← s.resolutionUnitLength
  let width := unit / xResolution * xDimension
  let height := unit / yResolution * yDimension
  let diagonal := Double.hypot width height
  if diagonal == 0 then .error (illegal .pixelXDimension .zeroDiagonal)
  else .ok (focalLength * filmDiagonal / diagonal)

/-- The focal length on 35 mm film that gives the same picture. -/
def focalLength35mmEquivalent (s : TagStore) : Except Failure Float := do
  match ← s.recordedEquivalent? with
  | some x => .ok x
  | none => s.computedEquivalent

end TagStore

end Exif
