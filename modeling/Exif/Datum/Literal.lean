import Exif.Datum
import Exif.Decimal.Literal
import Exif.Text.Quoted

/-!
The literal text of data, as it stands in messages: texts are quoted, sequences and records
bracketed. Rationals are written as doubles, so those beyond the doubles have no literal, and
neither have integers of too many digits.
-/

namespace Exif

inductive LiteralFault
  | quotientTooLarge
  | unwritableInteger
deriving DecidableEq, Repr

def LiteralFault.message : LiteralFault → String
  | quotientTooLarge => "integer division result too large for a float"
  | unwritableInteger => Decimal.unwritableMessage

namespace Datum

def integerLiteral (n : Int) : Except LiteralFault String :=
  if Decimal.isWritable n then .ok (Decimal.integer n) else .error .unwritableInteger

mutual

def literal : Datum → Except LiteralFault String
  | none => .ok "None"
  | bool true => .ok "True"
  | bool false => .ok "False"
  | int n => integerLiteral n
  | double x => .ok (Decimal.literal x)
  | text s => .ok (Text.quoted s)
  | bytes bs => .ok (Text.quotedBytes bs)
  | list xs => return "[" ++ ", ".intercalate (← literals xs) ++ "]"
  | tuple [x] => return "(" ++ (← literal x) ++ ",)"
  | tuple xs => return "(" ++ ", ".intercalate (← literals xs) ++ ")"
  | ratio num den => do
    let text ← integerLiteral num
    if den = 1 then return text else return text ++ "/" ++ (← integerLiteral den)
  | rational num den =>
    if den = 0 ∨ (Double.quotient? num den).isSome then
      .ok (Decimal.literal (rationalValue num den))
    else .error .quotientTooLarge
  | record fs => return "\x7b" ++ ", ".intercalate (← fieldLiterals fs) ++ "\x7d"

def literals : List Datum → Except LiteralFault (List String)
  | [] => .ok []
  | x :: xs => return (← literal x) :: (← literals xs)

def fieldLiterals : List (String × Datum) → Except LiteralFault (List String)
  | [] => .ok []
  | (name, x) :: fs => return (Text.quoted name ++ ": " ++ (← literal x)) :: (← fieldLiterals fs)

end

def display : Datum → Except LiteralFault String
  | text s => .ok s
  | d => d.literal

/-- The literal of a datum in a message, or what is said instead. -/
def literalOrFault (d : Datum) (message : String → String) : String :=
  match d.literal with
  | .ok literal => message literal
  | .error fault => fault.message

end Datum

end Exif
