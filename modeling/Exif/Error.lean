import Exif.Decimal.Literal
import Exif.Path
import Exif.Tag
import Exif.TagValue

/-!
Why a quantity cannot be derived. Absent, illegal and insufficient data are expected of real files;
the other failures come from numbers beyond the doubles or too long to be written, and from callers.
-/

namespace Exif

inductive Illegality
  | notPositive (x : Float)
  | outOfRange (x : Float)
  | unsupportedUnit (code : Int) (h : Decimal.isWritable code = true)
  | zeroDiagonal

def Illegality.reason : Illegality → String
  | notPositive x => Decimal.literal x ++ " is not positive"
  | outOfRange x => Decimal.literal x ++ " is out of range"
  | unsupportedUnit code _ => "unsupported unit code " ++ Decimal.integer code
  | zeroDiagonal => "sensor diagonal is zero"

inductive Composite
  | brightness
  | averageLuminance
deriving DecidableEq, Repr

def Composite.name : Composite → String
  | brightness => "brightness value"
  | averageLuminance => "average scene luminance"

/-- What the data of a file may lack for a quantity: a tag that is absent or of another kind, a
legal value, or a tag that one part of a composite quantity needs. -/
inductive Unavailable
  | absent (tag : Tag)
  | illegal (tag : Tag) (why : Illegality)
  | insufficient (quantity : Composite) (missing : Tag)

inductive Failure
  | unavailable (why : Unavailable)
  | integerTooLarge
  | divisionByZero
  | unwritableInteger
  | unsupportedKind (kind : Kind)

def absentMessage (tag : Tag) : String :=
  let id := (Nat.toDigits 16 tag.id).map Char.toUpper
  "Could not read EXIF tag " ++ tag.label ++ " (0x" ++
    String.ofList (List.replicate (4 - id.length) '0' ++ id) ++ ")."

def illegalMessage (tag : Tag) (reason : String) : String :=
  "Illegal value for " ++ tag.label ++ ": " ++ reason

def insufficientMessage (quantity : String) : String :=
  "Insufficient EXIF information to compute " ++ quantity ++ "."

def importMessage (path reason : String) : String :=
  "Could not parse EXIF data out of \"" ++ path ++ "\": " ++ reason

def Unavailable.message : Unavailable → String
  | absent tag => absentMessage tag
  | illegal tag why => illegalMessage tag why.reason
  | insufficient quantity _ => insufficientMessage quantity.name

def Failure.message : Failure → String
  | unavailable why => why.message
  | integerTooLarge => "int too large to convert to float"
  | divisionByZero => "float division by zero"
  | unwritableInteger => Decimal.unwritableMessage
  | unsupportedKind kind => "Unsupported lookup type: <class '" ++ kind.name ++ "'>"

end Exif
