import Exif.Double.Basic

/-!
Data of any shape: what decoders hand over for a tag, and what a settings document holds.
-/

namespace Exif

/-- A datum. A `ratio` keeps numerator and denominator as they were recorded; a `rational` stands
for the number. -/
inductive Datum
  | none
  | bool (value : Bool)
  | int (value : Int)
  | double (value : Float)
  | text (value : String)
  | bytes (value : List UInt8)
  | list (items : List Datum)
  | tuple (items : List Datum)
  | ratio (num den : Int)
  | rational (num den : Int)
  | record (fields : List (String × Datum))

namespace Datum

def typeName : Datum → String
  | none => "NoneType"
  | bool _ => "bool"
  | int _ => "int"
  | double _ => "float"
  | text _ => "str"
  | bytes _ => "bytes"
  | list _ => "list"
  | tuple _ => "tuple"
  | ratio _ _ => "Ratio"
  | rational _ _ => "IFDRational"
  | record _ => "dict"

/-- Whether a datum counts as true: nothing, false, zero and what is empty do not. -/
def truthy : Datum → Bool
  | none => false
  | bool b => b
  | int n => n != 0
  | double x => !(x == 0)
  | text s => s != ""
  | bytes bs => !bs.isEmpty
  | list xs => !xs.isEmpty
  | tuple xs => !xs.isEmpty
  | ratio _ _ => true
  | rational n d => n != 0 || d == 0
  | record fs => !fs.isEmpty

/-- The double nearest to a rational: a zero numerator gives positive zero, a zero denominator
NaN. -/
def rationalValue (num den : Int) : Float :=
  if den = 0 then 0 / 0 else if num = 0 then 0 else Double.quotient num den

end Datum

end Exif
