import Exif.Quantity

/-! The tags that a quantity is derived from, and the kind of its values. -/

namespace Exif

def TagValue.kind : TagValue → Kind
  | int _ => .int
  | double _ => .double
  | text _ => .text

namespace Quantity

def kind : Quantity → Kind
  | make | model => .text
  | thumbnailLocation => .int
  | fNumber | exposureTime | iso | apertureValue | timeValue | exposureValue | filmSpeedValue |
    luminanceValue | averageLuminance | focalLength35mmEquivalent => .double

def apertureTags : List Tag := [.fNumber, .apertureValue]

def timeTags : List Tag := [.exposureTime, .shutterSpeedValue]

def speedTags : List Tag := [.isoSpeedRatings, .exposureIndex]

/-- The tags from which the size of the sensor follows, apart from the unit of the resolutions. -/
def sensorTags : List Tag :=
  [.pixelXDimension, .pixelYDimension, .focalPlaneXResolution, .focalPlaneYResolution]

def doubleTags : Quantity → List Tag
  | make | model | thumbnailLocation => []
  | fNumber | apertureValue => apertureTags
  | exposureTime | timeValue => timeTags
  | iso | filmSpeedValue => speedTags
  | exposureValue => apertureTags ++ timeTags
  | averageLuminance => apertureTags ++ timeTags ++ speedTags
  | luminanceValue => .brightnessValue :: (apertureTags ++ timeTags ++ speedTags)
  | focalLength35mmEquivalent => [.focalLengthIn35mmFilm, .focalLength] ++ sensorTags

def otherTags : Quantity → List Tag
  | make => [.make]
  | model => [.model]
  | thumbnailLocation => [.thumbnailOffset]
  | focalLength35mmEquivalent => [.focalPlaneResolutionUnit]
  | fNumber | exposureTime | iso | apertureValue | timeValue | exposureValue | filmSpeedValue |
    luminanceValue | averageLuminance => []

def tags (q : Quantity) : List Tag := q.doubleTags ++ q.otherTags

theorem mem_tags_of_doubleTags {q : Quantity} {tag : Tag} (h : tag ∈ q.doubleTags) : tag ∈ q.tags :=
  List.mem_append_left _ h

/-- A tag that is read as a double gives a double. -/
theorem kind_of_doubleTags {q : Quantity} {tag : Tag} (h : tag ∈ q.doubleTags) : q.kind = .double := by
  cases q with
  | make | model | thumbnailLocation => cases h
  | fNumber | exposureTime | iso | apertureValue | timeValue | exposureValue | filmSpeedValue |
    luminanceValue | averageLuminance | focalLength35mmEquivalent => rfl

/-- The composite that a quantity is, whose lack of data is reported as such. -/
def composite? : Quantity → Option Composite
  | luminanceValue => some .brightness
  | averageLuminance => some .averageLuminance
  | make | model | fNumber | exposureTime | iso | apertureValue | timeValue | exposureValue |
    filmSpeedValue | focalLength35mmEquivalent | thumbnailLocation => none

end Quantity

end Exif
