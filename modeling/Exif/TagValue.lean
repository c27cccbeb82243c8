import Exif.Datum

/-!
The values that tags hold, and the kinds of values that callers may ask for.
-/

namespace Exif

inductive TagValue
  | int (value : Int)
  | double (value : Float)
  | text (value : String)

namespace TagValue

def toDatum : TagValue → Datum
  | int n => .int n
  | double x => .double x
  | text s => .text s

/-- The value that a datum is: integers, doubles and texts qualify, truth values do not. -/
def ofDatum? : Datum → Option TagValue
  | .int n => some (int n)
  | .double x => some (double x)
  | .text s => some (text s)
  | _ => none

theorem ofDatum?_toDatum (v : TagValue) : ofDatum? v.toDatum = some v := by cases v <;> rfl

end TagValue

/-- The kind of value that a look-up asks for. Only the first three can be read; any kind beyond those
listed is known by its name alone. -/
inductive Kind
  | double
  | int
  | text
  | bytes
  | bool
  | other (name : String)
deriving DecidableEq, Repr

def Kind.name : Kind → String
  | double => "float"
  | int => "int"
  | text => "str"
  | bytes => "bytes"
  | bool => "bool"
  | other name => name

end Exif
