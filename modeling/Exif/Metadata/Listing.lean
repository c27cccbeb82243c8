import Exif.Metadata.Conversion
import Exif.OrderedMap
import Exif.Tag

/-!
Metadata as a flat listing of fields. Each field is listed under a key whose first word names its
directory, and has a field type and a list of values.
-/

namespace Exif

structure Field where
  id : Int
  type : Int
  values : Datum

/-- What a listing has under a key: a field, or bytes that are not a field. -/
inductive ListingEntry
  | field (f : Field)
  | raw (bytes : List UInt8)

abbrev Listing : Type := List (String × ListingEntry)

inductive FieldClass
  | ascii
  | undefined
  | rational
  | floating
  | integral
deriving DecidableEq, Repr

/-- The class of a field type; types without a class of their own are read as integers. -/
def FieldClass.ofType (type : Int) : FieldClass :=
  if type = 2 then ascii
  else if type = 7 then undefined
  else if type = 5 ∨ type = 10 then rational
  else if type = 11 ∨ type = 12 then floating
  else integral

/-- The first of the values; a datum that is not a sequence is the only one. -/
def Datum.firstValue? : Datum → Option Datum
  | list xs => xs.head?
  | tuple xs => xs.head?
  | d => some d

/-- The quotient of a recorded ratio; none for a zero denominator. -/
def Datum.ratioValue? : Datum → Except ConversionError (Option TagValue)
  | ratio num den =>
    if den = 0 then .ok .none else (divideIntegers num den).map fun x => some (.double x)
  | d => .error (.notARatio d)

def Field.value? (f : Field) : Except ConversionError (Option TagValue) :=
  match FieldClass.ofType f.type, f.values.firstValue? with
  | .ascii, _ => f.values.cleanText.map fun s => s.map .text
  | .undefined, _ => .ok none
  | _, none => .ok none
  | .rational, some first => first.ratioValue?
  | .floating, some first => first.toDouble.map fun x => some (.double x)
  | .integral, some first => first.toInteger.map fun n => some (.int n)

def thumbnailTags : List Tag := [.thumbnailOffset, .thumbnailLength]

namespace Listing

def directoryWord (key : String) : String := String.ofList (key.toList.takeWhile (· != ' '))

def keeps (key : String) (f : Field) : Bool :=
  match Tag.ofId? f.id with
  | none => false
  | some tag =>
    let word := directoryWord key
    word == "Image" || word == "EXIF" || (word == "Thumbnail" && thumbnailTags.contains tag)

end Listing

abbrev Collected : Type := OrderedMap Int TagValue

/-- A value put under its id; an unreadable one leaves what is there. -/
def Collected.record (m : Collected) (id : Int) : Option TagValue → Collected
  | some value => m.insert id value
  | none => m

namespace Listing

def step (m : Collected) : String × ListingEntry → Except ConversionError Collected
  | (_, .raw _) => .ok m
  | (key, .field f) => if keeps key f then f.value?.map (m.record f.id) else .ok m

def collect (entries : Listing) : Except ConversionError Collected :=
  entries.foldlM step .empty

end Listing

end Exif
