/-!
The tags that the derived quantities read, with their numeric ids and their labels.
-/

namespace Exif

inductive Tag
  | make
  | model
  | orientation
  | thumbnailOffset
  | thumbnailLength
  | exposureTime
  | fNumber
  | isoSpeedRatings
  | dateTimeOriginal
  | shutterSpeedValue
  | apertureValue
  | brightnessValue
  | exposureBiasValue
  | focalLength
  | pixelXDimension
  | pixelYDimension
  | focalPlaneXResolution
  | focalPlaneYResolution
  | focalPlaneResolutionUnit
  | exposureIndex
  | focalLengthIn35mmFilm
  | lensModel
deriving DecidableEq, Repr

namespace Tag

def all : List Tag :=
  [make, model, orientation, thumbnailOffset, thumbnailLength, exposureTime, fNumber,
    isoSpeedRatings, dateTimeOriginal, shutterSpeedValue, apertureValue, brightnessValue,
    exposureBiasValue, focalLength, pixelXDimension, pixelYDimension, focalPlaneXResolution,
    focalPlaneYResolution, focalPlaneResolutionUnit, exposureIndex, focalLengthIn35mmFilm,
    lensModel]

def id : Tag → Nat
  | make => 0x010F
  | model => 0x0110
  | orientation => 0x0112
  | thumbnailOffset => 0x0201
  | thumbnailLength => 0x0202
  | exposureTime => 0x829A
  | fNumber => 0x829D
  | isoSpeedRatings => 0x8827
  | dateTimeOriginal => 0x9003
  | shutterSpeedValue => 0x9201
  | apertureValue => 0x9202
  | brightnessValue => 0x9203
  | exposureBiasValue => 0x9204
  | focalLength => 0x920A
  | pixelXDimension => 0xA002
  | pixelYDimension => 0xA003
  | focalPlaneXResolution => 0xA20E
  | focalPlaneYResolution => 0xA20F
  | focalPlaneResolutionUnit => 0xA210
  | exposureIndex => 0xA215
  | focalLengthIn35mmFilm => 0xA405
  | lensModel => 0xA434

def label : Tag → String
  | make => "Make"
  | model => "Model"
  | orientation => "Orientation"
  | thumbnailOffset => "ThumbnailOffset"
  | thumbnailLength => "ThumbnailLength"
  | exposureTime => "ExposureTime"
  | fNumber => "FNumber"
  | isoSpeedRatings => "ISOSpeedRatings"
  | dateTimeOriginal => "DateTimeOriginal"
  | shutterSpeedValue => "ShutterSpeedValue"
  | apertureValue => "ApertureValue"
  | brightnessValue => "BrightnessValue"
  | exposureBiasValue => "ExposureBiasValue"
  | focalLength => "FocalLength"
  | pixelXDimension => "PixelXDimension"
  | pixelYDimension => "PixelYDimension"
  | focalPlaneXResolution => "FocalPlaneXResolution"
  | focalPlaneYResolution => "FocalPlaneYResolution"
  | focalPlaneResolutionUnit => "FocalPlaneResolutionUnit"
  | exposureIndex => "ExposureIndex"
  | focalLengthIn35mmFilm => "FocalLengthIn35mmFilm"
  | lensModel => "LensModel"

def symbol : Tag → String
  | make => "MAKE"
  | model => "MODEL"
  | orientation => "ORIENTATION"
  | thumbnailOffset => "THUMBNAIL_OFFSET"
  | thumbnailLength => "THUMBNAIL_LENGTH"
  | exposureTime => "EXPOSURE_TIME"
  | fNumber => "F_NUMBER"
  | isoSpeedRatings => "ISO_SPEED_RATINGS"
  | dateTimeOriginal => "DATE_TIME_ORIGINAL"
  | shutterSpeedValue => "SHUTTER_SPEED_VALUE"
  | apertureValue => "APERTURE_VALUE"
  | brightnessValue => "BRIGHTNESS_VALUE"
  | exposureBiasValue => "EXPOSURE_BIAS_VALUE"
  | focalLength => "FOCAL_LENGTH"
  | pixelXDimension => "PIXEL_X_DIMENSION"
  | pixelYDimension => "PIXEL_Y_DIMENSION"
  | focalPlaneXResolution => "FOCAL_PLANE_X_RESOLUTION"
  | focalPlaneYResolution => "FOCAL_PLANE_Y_RESOLUTION"
  | focalPlaneResolutionUnit => "FOCAL_PLANE_RESOLUTION_UNIT"
  | exposureIndex => "EXPOSURE_INDEX"
  | focalLengthIn35mmFilm => "FOCAL_LENGTH_IN_35MM_FILM"
  | lensModel => "LENS_MODEL"

def ofId? (n : Int) : Option Tag := all.find? fun t => (t.id : Int) = n

def ofSymbol? (s : String) : Option Tag := all.find? fun t => t.symbol = s

theorem mem_all (t : Tag) : t ∈ all := by cases t <;> decide

theorem id_of_ofId? {n : Int} {t : Tag} (h : ofId? n = some t) : (t.id : Int) = n := by
  simpa using List.find?_some h

theorem ofId?_id (t : Tag) : ofId? t.id = some t := by cases t <;> decide

end Tag

end Exif
