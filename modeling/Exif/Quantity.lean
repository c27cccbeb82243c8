import Exif.Lens
import Exif.Luminance

/-!
The derived quantities by name, and the summary of a store.
-/

namespace Exif

inductive Quantity
  | make
  | model
  | fNumber
  | exposureTime
  | iso
  | apertureValue
  | timeValue
  | exposureValue
  | filmSpeedValue
  | luminanceValue
  | averageLuminance
  | focalLength35mmEquivalent
  | thumbnailLocation
deriving DecidableEq, Repr

namespace Quantity

def all : List Quantity :=
  [make, model, fNumber, exposureTime, iso, apertureValue, timeValue, exposureValue,
    filmSpeedValue, luminanceValue, averageLuminance, focalLength35mmEquivalent,
    thumbnailLocation]

def name : Quantity → String
  | make => "make"
  | model => "model"
  | fNumber => "f_number"
  | exposureTime => "exposure_time"
  | iso => "iso"
  | apertureValue => "aperture_value"
  | timeValue => "time_value"
  | exposureValue => "exposure_value"
  | filmSpeedValue => "film_speed_value"
  | luminanceValue => "luminance_value"
  | averageLuminance => "average_luminance"
  | focalLength35mmEquivalent => "focal_length_35mm_equiv"
  | thumbnailLocation => "thumbnail_location"

def ofName? (s : String) : Option Quantity := all.find? fun q => q.name = s

end Quantity

namespace TagStore

def thumbnailLocation (s : TagStore) : Except Failure Int :=
  return (← s.int .thumbnailOffset) + s.exifOffset

def value (s : TagStore) : Quantity → Except Failure TagValue
  | .make => .text <$> s.text .make
  | .model => .text <$> s.text .model
  | .fNumber => .double <$> s.fNumber
  | .exposureTime => .double <$> s.exposureTime
  | .iso => .double <$> s.iso
  | .apertureValue => .double <$> s.apertureValue
  | .timeValue => .double <$> s.timeValue
  | .exposureValue => .double <$> s.exposureValue
  | .filmSpeedValue => .double <$> s.filmSpeedValue
  | .luminanceValue => .double <$> s.luminanceValue
  | .averageLuminance => .double <$> s.averageLuminance
  | .focalLength35mmEquivalent => .double <$> s.focalLength35mmEquivalent
  | .thumbnailLocation => .int <$> s.thumbnailLocation

/-- The value of a quantity, or nothing if the data of the store do not give it. -/
def available (s : TagStore) (q : Quantity) : Except Failure (Option TagValue) :=
  match s.value q with
  | .ok v => .ok (some v)
  | .error (.unavailable _) => .ok none
  | .error e => .error e

/-- Every quantity with its value, or the first failure that is not a lack of data. -/
def summary (s : TagStore) : Except Failure (List (Quantity × Option TagValue)) :=
  Quantity.all.mapM fun q => return (q, ← s.available q)

def describeView (s : TagStore) : Except Failure String :=
  return "ExifDerivedView(" ++ (← s.describe) ++ ")"

end TagStore

end Exif
