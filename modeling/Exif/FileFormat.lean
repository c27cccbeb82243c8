import Exif.Path
import Exif.Text.LowerCase

/-!
Picture file formats and the extensions that tell them.
-/

namespace Exif

inductive FileFormat
  | cr2
  | nef
  | arw
  | dng
  | orf
  | rw2
  | jpeg
  | png
  | tiff
  | heic
  | heif
  | webp
  | unknown
deriving DecidableEq, Repr

namespace FileFormat

def all : List FileFormat :=
  [cr2, nef, arw, dng, orf, rw2, jpeg, png, tiff, heic, heif, webp, unknown]

def value : FileFormat → String
  | cr2 => "cr2"
  | nef => "nef"
  | arw => "arw"
  | dng => "dng"
  | orf => "orf"
  | rw2 => "rw2"
  | jpeg => "jpg"
  | png => "png"
  | tiff => "tiff"
  | heic => "heic"
  | heif => "heif"
  | webp => "webp"
  | unknown => "unknown"

def symbol : FileFormat → String
  | cr2 => "CR2"
  | nef => "NEF"
  | arw => "ARW"
  | dng => "DNG"
  | orf => "ORF"
  | rw2 => "RW2"
  | jpeg => "JPEG"
  | png => "PNG"
  | tiff => "TIFF"
  | heic => "HEIC"
  | heif => "HEIF"
  | webp => "WEBP"
  | unknown => "UNKNOWN"

/-- Whether files of the format are built like TIFF files. -/
def isRaw : FileFormat → Bool
  | cr2 | nef | arw | dng | orf | rw2 | tiff => true
  | _ => false

def isImage : FileFormat → Bool
  | unknown => false
  | _ => true

def words : List (String × FileFormat) :=
  [("cr2", cr2), ("nef", nef), ("arw", arw), ("dng", dng), ("orf", orf), ("rw2", rw2),
    ("jpg", jpeg), ("jpeg", jpeg), ("png", png), ("tif", tiff), ("tiff", tiff), ("heic", heic),
    ("heif", heif), ("webp", webp)]

/-- The word of an extension: in lower case, without dots at its start. -/
def extensionWord (cs : List Char) : List Char :=
  (Text.lowerTable.chars cs).dropWhile (· == '.')

def ofExtension (cs : List Char) : FileFormat :=
  (words.lookup (String.ofList (extensionWord cs))).getD unknown

def ofName (name : String) : FileFormat := ofExtension (Path.extension name.toList)

def ofPath (p : Path) : FileFormat := ofName p.name

end FileFormat

end Exif
