import Exif.Decimal.Digits
import Exif.Text.Blank
import Exif.Text.Word

/-!
Reading decimal numerals. A numeral may stand between blanks, have a sign, and have single
underscores between its digits. It is written in ASCII; a text may have the digits and the blanks
of other scripts instead.
-/

namespace Exif.Decimal

/-- The blanks of ASCII that may stand around a numeral. -/
def isSpace (c : Char) : Bool := (9 ≤ c.toNat && c.toNat ≤ 13) || c == ' '

def toAscii (c : Char) : Char :=
  if c.toNat < 128 then c
  else if Text.isBlank c then ' '
  else
    match Text.decimalValue? c with
    | some d => d.digitChar
    | none => c

def numeralOf (s : String) : List Char := s.toList.map toAscii

def moreDigits : List Char → List Char × List Char
  | [] => ([], [])
  | '_' :: d :: cs =>
    if d.isDigit then let (ds, rest) := moreDigits cs; (d :: ds, rest) else ([], '_' :: d :: cs)
  | c :: cs =>
    if c.isDigit then let (ds, rest) := moreDigits cs; (c :: ds, rest) else ([], c :: cs)

def spanDigits : List Char → List Char × List Char
  | [] => ([], [])
  | c :: cs =>
    if c.isDigit then let (ds, rest) := moreDigits cs; (c :: ds, rest) else ([], c :: cs)

/-- Whether a minus sign stands at the start, and what follows the sign. -/
def spanSign : List Char → Bool × List Char
  | '-' :: cs => (true, cs)
  | '+' :: cs => (false, cs)
  | cs => (false, cs)

def valueOf (ds : List Char) : Nat := ds.foldl (fun n d => 10 * n + (d.toNat - 48)) 0

def signedDigits? (cs : List Char) : Option (Int × List Char) :=
  let (negative, cs) := spanSign cs
  match spanDigits cs with
  | ([], _) => none
  | (ds, rest) => some (if negative then -(valueOf ds : Int) else valueOf ds, rest)

inductive NumeralError
  | malformed
  | tooManyDigits (count : Nat)
deriving DecidableEq, Repr

/-- The integer that a numeral denotes. Digits are counted, leading zeros among them, before what
follows them is looked at, but an underscore must stand between two digits. -/
def integerOf (cs : List Char) : Except NumeralError Int :=
  let (negative, cs) := spanSign (Text.trim isSpace cs)
  match spanDigits cs with
  | ([], _) | (_, '_' :: _) => .error .malformed
  | (ds, rest) =>
    if maxDigits < ds.length then .error (.tooManyDigits ds.length)
    else if rest ≠ [] then .error .malformed
    else .ok (if negative then -(valueOf ds : Int) else valueOf ds)

/-- The exponent after the digits; none stands for zero. -/
def exponent? : List Char → Option Int
  | [] => some 0
  | c :: cs =>
    if c == 'e' || c == 'E' then
      match signedDigits? cs with
      | some (e, []) => some e
      | _ => none
    else none

def magnitude? (cs : List Char) : Option Float :=
  let word := String.ofList (cs.map Char.toLower)
  if word == "inf" || word == "infinity" then some (1 / 0)
  else if word == "nan" then some (0 / 0)
  else
    let (whole, rest) := spanDigits cs
    let (places, rest) := match rest with
      | '.' :: rest => spanDigits rest
      | _ => ([], rest)
    if whole.isEmpty && places.isEmpty then none
    else (exponent? rest).map fun (e : Int) =>
      let scale := e - (places.length : Int)
      Float.ofScientific (valueOf (whole ++ places)) (decide (scale < 0)) scale.natAbs

def double? (cs : List Char) : Option Float :=
  let (negative, cs) := spanSign (Text.trim isSpace cs)
  (magnitude? cs).map fun x => if negative then -x else x

end Exif.Decimal
