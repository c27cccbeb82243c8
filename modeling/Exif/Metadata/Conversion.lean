import Exif.Datum.Literal
import Exif.Decimal.Numeral
import Exif.TagValue
import Exif.Text.Clean

/-!
Turning what a decoder hands over into a number or a clean text.
-/

namespace Exif

inductive ConversionError
  | quotientTooLarge
  | integerTooLarge
  | infiniteInteger
  | notANumberInteger
  | notARatio (given : Datum)
  | noLiteral (fault : LiteralFault)
  | tooManyDigits (count : Nat)
  | notIntegerNumeral (literal : String)
  | notDoubleNumeral (literal : String)
  | notAnInteger (given : Datum)
  | notADouble (given : Datum)

/-- The length to which what is no integer numeral is cut: bytes before they are quoted, and the
quotation. -/
def quotationLength : Nat := 200

def ConversionError.message : ConversionError → String
  | quotientTooLarge => "integer division result too large for a float"
  | integerTooLarge => "int too large to convert to float"
  | infiniteInteger => "cannot convert float infinity to integer"
  | notANumberInteger => "cannot convert float NaN to integer"
  | notARatio d => "'" ++ d.typeName ++ "' object has no attribute 'den'"
  | noLiteral fault => fault.message
  | tooManyDigits count =>
    "Exceeds the limit (" ++ Decimal.integer Decimal.maxDigits ++
      " digits) for integer string conversion: value has " ++ Decimal.integer count ++
      " digits; use sys.set_int_max_str_digits() to increase the limit"
  | notIntegerNumeral literal =>
    "invalid literal for int() with base 10: " ++
      String.ofList (literal.toList.take quotationLength)
  | notDoubleNumeral literal => "could not convert string to float: " ++ literal
  | notAnInteger d =>
    "int() argument must be a string, a bytes-like object or a real number, not '" ++
      d.typeName ++ "'"
  | notADouble d =>
    "float() argument must be a string or a real number, not '" ++ d.typeName ++ "'"

namespace Datum

def cleanText : Datum → Except ConversionError (Option String)
  | none => .ok .none
  | d => Text.clean <$> d.display.mapError .noLiteral

def charactersOf (bytes : List UInt8) : List Char := bytes.map fun b => Char.ofNat b.toNat

def orError {α : Type} (e : ConversionError) : Option α → Except ConversionError α
  | some x => .ok x
  | .none => .error e

def divideIntegers (num den : Int) : Except ConversionError Float :=
  orError .quotientTooLarge (Double.quotient? num den)

/-- The integer that characters denote, which are quoted if they denote none. -/
def denoted (literal : String) (cs : List Char) : Except ConversionError Int :=
  match Decimal.integerOf cs with
  | .ok n => .ok n
  | .error .malformed => .error (.notIntegerNumeral literal)
  | .error (.tooManyDigits count) => .error (.tooManyDigits count)

def toInteger : Datum → Except ConversionError Int
  | int n => .ok n
  | bool b => .ok (if b then 1 else 0)
  | double x =>
    match Double.truncate? x with
    | some n => .ok n
    | .none => .error (if x.isNaN then .notANumberInteger else .infiniteInteger)
  | text s => denoted (Text.quoted s) (Decimal.numeralOf s)
  | bytes bs => denoted (Text.quotedBytes (bs.take quotationLength)) (charactersOf bs)
  | rational num den => if den = 0 then .error .notANumberInteger else .ok (num.tdiv den)
  | d => .error (.notAnInteger d)

def toDouble : Datum → Except ConversionError Float
  | int n => orError .integerTooLarge (Double.ofInt? n)
  | bool b => .ok (if b then 1 else 0)
  | double x => .ok x
  | text s => orError (.notDoubleNumeral (Text.quoted s)) (Decimal.double? (Decimal.numeralOf s))
  | bytes bs =>
    orError (.notDoubleNumeral (Text.quotedBytes bs)) (Decimal.double? (charactersOf bs))
  | rational num den =>
    if den = 0 then .ok (0 / 0) else if num = 0 then .ok 0 else divideIntegers num den
  | d => .error (.notADouble d)

end Datum

end Exif
