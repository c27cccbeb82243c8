import Exif.Metadata.Listing

/-!
Metadata as three directories of numbered entries: that of the picture, that of the exposure and
that of the thumbnail. Several values of an entry stand in a tuple.
-/

namespace Exif

abbrev DirectoryEntry : Type := Int × Datum

/-- The value of a directory entry: the first of several, a clean text, or a number. -/
def Datum.scalarValue? : Datum → Except ConversionError (Option TagValue)
  | text s => .ok ((Text.clean s).map .text)
  | rational num den =>
    if den = 0 then .ok .none else (rational num den).toDouble.map fun x => some (.double x)
  | int n => .ok (some (.int n))
  | double x => .ok (some (.double x))
  | _ => .ok .none

/-- The value of a directory entry, which may stand first in a tuple. -/
def Datum.entryValue? : Datum → Except ConversionError (Option TagValue)
  | tuple [] => .ok .none
  | tuple (first :: _) => first.scalarValue?
  | d => d.scalarValue?

structure DirectoryLists where
  image : List DirectoryEntry
  exif : List DirectoryEntry
  thumbnail : List DirectoryEntry

namespace DirectoryLists

def keeps (e : DirectoryEntry) : Bool := (Tag.ofId? e.1).isSome

def keepsThumbnail (e : DirectoryEntry) : Bool := (Tag.ofId? e.1).any thumbnailTags.contains

def kept (d : DirectoryLists) : List DirectoryEntry :=
  d.image.filter keeps ++ d.exif.filter keeps ++ d.thumbnail.filter keepsThumbnail

def step (m : Collected) (e : DirectoryEntry) : Except ConversionError Collected :=
  e.2.entryValue?.map (m.record e.1)

def collect (d : DirectoryLists) : Except ConversionError Collected :=
  d.kept.foldlM step .empty

end DirectoryLists

end Exif
