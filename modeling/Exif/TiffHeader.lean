import Exif.OpenFile

/-!
Where the TIFF header stands in a picture file. A file built like a TIFF file starts with it. A JPEG
file is a sequence of segments, each with a marker and a length that counts its own two bytes; the
header follows the identifier in an APP1 segment.
-/

namespace Exif.TiffHeader

def jpegStart : List UInt8 := [0xFF, 0xD8]

def tiffStarts : List (List UInt8) := [[0x49, 0x49, 0x2A, 0x00], [0x4D, 0x4D, 0x00, 0x2A]]

/-- The identifier that precedes the TIFF header in an APP1 segment: `Exif` and two zero bytes. -/
def identifier : List UInt8 := [0x45, 0x78, 0x69, 0x66, 0x00, 0x00]

def markerStart : UInt8 := 0xFF

def app1 : UInt8 := 0xE1

/-- The markers after which no metadata follow: start of scan and end of image. -/
def endMarkers : List UInt8 := [0xDA, 0xD9]

def declaredLength (high low : UInt8) : Nat := 256 * high.toNat + low.toNat

/-- Walks over the segments from `position` on, where the bytes still to come stand. The answer is
the position after the first identifier that follows the header of an APP1 segment. Zero stands for
no answer, since no header starts at zero. -/
def walk (position : Nat) : List UInt8 → Nat
  | start :: marker :: high :: low :: rest =>
    if start ≠ markerStart ∨ marker ∈ endMarkers then 0
    else if marker = app1 ∧ identifier.isPrefixOf rest then position + 4 + identifier.length
    else
      walk (position + 2 + declaredLength high low)
        ((high :: low :: rest).drop (declaredLength high low))
  | _ => 0
termination_by bytes => bytes.length
decreasing_by simp only [List.length_drop, List.length_cons]; omega

/-- The position of the TIFF header in a file with these bytes; zero if the file starts with it or
has none. -/
def locate (bytes : List UInt8) : Nat :=
  if bytes.take 4 ∈ tiffStarts then 0
  else if jpegStart.isPrefixOf bytes then walk 2 (bytes.drop 2)
  else 0

/-! ## Searching an open file

Only the headers of segments are read, and the identifier where it can stand; what a segment declares
as its length is skipped unread. -/

/-- The size of the header of a segment, and of the beginning that tells a TIFF file. -/
def headerSize : Nat := 4

theorem header_within {f behind : OpenFile} {p : Nat} {a b c d : UInt8}
    (h : (f.seek p).read headerSize = ([a, b, c, d], behind)) : p + headerSize ≤ f.bytes.length := by
  have hl := congrArg (fun r => r.1.length) h
  simp [headerSize] at hl ⊢
  omega

/-- Searches the segments from a position on. The answer is as for `walk`. -/
def search (f : OpenFile) (position : Nat) : Nat :=
  match h : (f.seek position).read headerSize with
  | ([start, marker, high, low], behind) =>
    if start ≠ markerStart ∨ marker ∈ endMarkers then 0
    else if marker = app1 ∧ (behind.read identifier.length).1 = identifier then
      position + headerSize + identifier.length
    else search f (position + 2 + declaredLength high low)
  | _ => 0
termination_by f.bytes.length - position
decreasing_by have := header_within h; simp only [headerSize] at this; omega

/-- The position of the TIFF header in an open file, wherever reading stopped before. -/
def locateIn (f : OpenFile) : Nat :=
  let head := ((f.seek 0).read headerSize).1
  if head ∈ tiffStarts then 0
  else if head.take jpegStart.length = jpegStart then search f jpegStart.length
  else 0

end Exif.TiffHeader
