import Exif.Error
import Exif.OrderedMap

/-!
The raw tags of one picture, and reading them as doubles, integers or texts.
-/

namespace Exif

/-- The tags of a picture in the order in which they were recorded, the position of the TIFF header
in its file, and the file. -/
structure TagStore where
  tags : OrderedMap Tag TagValue
  exifOffset : Int
  source : Option Path

namespace TagStore

/-- The tag and the value that an entry stands for, if its id is in the vocabulary and its datum is
a value. -/
def qualify (entry : Int × Datum) : Option (Tag × TagValue) :=
  match Tag.ofId? entry.1, TagValue.ofDatum? entry.2 with
  | some tag, some value => some (tag, value)
  | _, _ => none

def ofMap (entries : OrderedMap Int Datum) (exifOffset : Int) (source : Option Path) :
    TagStore where
  tags := .ofList (entries.entries.filterMap qualify)
  exifOffset := exifOffset
  source := source

def contains (s : TagStore) (tag : Tag) : Bool := s.tags.contains tag

def containsId (s : TagStore) (id : Int) : Bool := (Tag.ofId? id).any s.contains

/-! ## Typed readings -/

def text? (s : TagStore) (tag : Tag) : Option String :=
  match s.tags.get? tag with
  | some (.text value) => some value
  | _ => none

/-- A tag as an integer. A double reads as an integer if it is one. -/
def int? (s : TagStore) (tag : Tag) : Option Int :=
  match s.tags.get? tag with
  | some (.int value) => some value
  | some (.double value) => Double.toInt? value
  | _ => none

/-- A tag as a double. An integer beyond the doubles is a failure. -/
def double? (s : TagStore) (tag : Tag) : Except Failure (Option Float) :=
  match s.tags.get? tag with
  | some (.double value) => .ok (some value)
  | some (.int value) =>
    match Double.ofInt? value with
    | some x => .ok (some x)
    | none => .error .integerTooLarge
  | _ => .ok none

/-- A tag as a value of a kind that cannot be read: a failure where the tag holds a number. -/
def refuse (s : TagStore) (tag : Tag) (kind : Kind) : Except Failure (Option TagValue) :=
  match s.tags.get? tag with
  | some (.int _) | some (.double _) => .error (.unsupportedKind kind)
  | _ => .ok none

/-- A tag as a value of a kind, if it is there and can be read so. -/
def lookup (s : TagStore) (tag : Tag) : Kind → Except Failure (Option TagValue)
  | .double => (s.double? tag).map (·.map .double)
  | .int => .ok ((s.int? tag).map .int)
  | .text => .ok ((s.text? tag).map .text)
  | kind => s.refuse tag kind

/-! ## Readings that must succeed -/

def absent (tag : Tag) : Failure := .unavailable (.absent tag)

def require {α : Type} (tag : Tag) : Option α → Except Failure α
  | some value => .ok value
  | none => .error (absent tag)

def text (s : TagStore) (tag : Tag) : Except Failure String := require tag (s.text? tag)

def int (s : TagStore) (tag : Tag) : Except Failure Int := require tag (s.int? tag)

def double (s : TagStore) (tag : Tag) : Except Failure Float := do
  require tag (← s.double? tag)

def query (s : TagStore) (tag : Tag) (kind : Kind) : Except Failure TagValue := do
  require tag (← s.lookup tag kind)

/-! ## Listings -/

def labelled (s : TagStore) : List (String × TagValue) :=
  s.tags.entries.map fun p => (p.1.label, p.2)

def describe (s : TagStore) : Except Failure String :=
  if Decimal.isWritable s.exifOffset then
    .ok ("TagStore(" ++ Decimal.integer s.tags.size ++ " tags, exif_offset=" ++
      Decimal.integer s.exifOffset ++ ", source=" ++
      (match s.source with | some p => p.text | none => "None") ++ ")")
  else .error .unwritableInteger

end TagStore

end Exif
