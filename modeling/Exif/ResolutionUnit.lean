import Exif.Decimal.Digits

/-!
Units of the focal plane resolution.
-/

namespace Exif

/-- The code of a resolution unit; `none` is the code of a resolution without an absolute unit. -/
inductive ResolutionUnit
  | none
  | inch
  | centimeter
deriving DecidableEq, Repr

namespace ResolutionUnit

def all : List ResolutionUnit := [none, inch, centimeter]

def code : ResolutionUnit → Nat
  | none => 1
  | inch => 2
  | centimeter => 3

def symbol : ResolutionUnit → String
  | none => "NONE"
  | inch => "INCH"
  | centimeter => "CENTIMETER"

def millimeters : ResolutionUnit → Option Float
  | none => .none
  | inch => some 25.4
  | centimeter => some 10.0

def ofCode? (n : Int) : Option ResolutionUnit := all.find? fun u => (u.code : Int) = n

def unknownMessage (n : Int) : String :=
  if Decimal.isWritable n then Decimal.integer n ++ " is not a valid ResolutionUnit"
  else Decimal.unwritableMessage

end ResolutionUnit

end Exif
