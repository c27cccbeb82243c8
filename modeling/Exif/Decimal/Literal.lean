import Exif.Double.Functions
import Exif.Decimal.Digits

/-!
How doubles are written: the literal form, with the fewest digits that read back, and the forms
with a given number of digits.
-/

namespace Exif.Decimal

/-- Texts of the numbers without digits, and the bounds of positional writing. -/
structure Layout where
  infinity : String
  notANumber : String
  minPositional : Int
  minScientific : Int
  exponentDigits : Nat

/-- Literals are positional from `0.0001` to below `10 ^ 16`, and exponents have at least two
digits. -/
def layout : Layout where
  infinity := "inf"
  notANumber := "nan"
  minPositional := -4
  minScientific := 16
  exponentDigits := 2

def padded (width n : Nat) : List Char :=
  let ds := digitsOf n
  List.replicate (width - ds.length) '0' ++ ds

def exponentPart (letter : Char) (e : Int) : List Char :=
  letter :: (if e < 0 then '-' else '+') :: padded layout.exponentDigits e.natAbs

def scientificText (letter : Char) (d : Digits) : List Char :=
  match d.digits with
  | [] => []
  | [c] => c :: exponentPart letter d.exponent
  | c :: cs => c :: '.' :: cs ++ exponentPart letter d.exponent

/-- All digits around the point, with at least one on either side of it. -/
def positionalText (d : Digits) : List Char :=
  if d.exponent < 0 then
    '0' :: '.' :: List.replicate (d.exponent.natAbs - 1) '0' ++ d.digits
  else
    let n := d.exponent.toNat + 1
    let whole := d.digits.take n ++ List.replicate (n - d.digits.length) '0'
    let rest := d.digits.drop n
    whole ++ '.' :: (if rest.isEmpty then ['0'] else rest)

def shortestText (d : Digits) : List Char :=
  if layout.minPositional ≤ d.exponent ∧ d.exponent < layout.minScientific then positionalText d
  else scientificText 'e' d

def signText : Float.Model.UnpackedFloat.Sign → List Char
  | .negative => ['-']
  | .positive => []

def literal (x : Float) : String :=
  match x.toModel.unpack with
  | .notANumber => layout.notANumber
  | .infinity s => String.ofList (signText s ++ layout.infinity.toList)
  | .zero s => String.ofList (signText s ++ "0.0".toList)
  | .finite s m e _ => String.ofList (signText s ++ shortestText (shortest m e))

/-- A double with one digit before the point and `places` after it, and an exponent. -/
def scientific (places : Nat) (x : Float) : String :=
  match x.toModel.unpack with
  | .notANumber => layout.notANumber
  | .infinity s => String.ofList (signText s ++ layout.infinity.toList)
  | .zero s =>
    String.ofList (signText s ++ scientificText 'e' ⟨List.replicate (places + 1) '0', 0⟩)
  | .finite s m e _ =>
    let (above, below) := powerParts 2 e
    String.ofList (signText s ++ scientificText 'e' (rounded (places + 1) (m * above) below))

end Exif.Decimal
