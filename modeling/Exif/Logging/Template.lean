import Exif.Decimal.Literal
import Exif.Logging.Level
import Exif.Text.Quoted
import Exif.Text.Word

/-!
Templates of log lines. A directive `%(key)s` stands for a field of the record; flags, a width and
a precision may stand before the letter that tells how the field is written. A directive without a
key stands for the whole record, and must be the first. Two percent signs stand for one.
-/

namespace Exif.Logging

structure Origin where
  pathname : String
  filename : String
  moduleName : String
  function : String
  line : UInt32
  created : { x : Float // x.isFinite = true }
  milliseconds : { x : Float // x.isFinite = true }
  sinceStart : { x : Float // x.isFinite = true }
  thread : UInt64
  threadName : String
  processName : String
  process : UInt32
  time : String

/-- What is logged. The level has a name. -/
structure Record where
  logger : String
  level : Int
  levelName : String
  message : String
  origin : Origin
  named : levelName? level = some levelName

/-- A field of a record. A fixed field is neither text nor number and always written the same. -/
inductive FieldValue
  | text (s : String)
  | int (n : Int) (h : Decimal.isWritable n = true)
  | double (x : Float) (h : x.isFinite = true)
  | fixed (literal : String)

theorem isWritable_word (n : UInt64) : Decimal.isWritable n.toNat = true := by
  rw [Decimal.isWritable_iff, Int.natAbs_natCast]
  exact Nat.lt_of_lt_of_le n.toNat_lt (by decide +kernel)

def FieldValue.word (n : UInt64) : FieldValue := .int n.toNat (isWritable_word n)

namespace Record

def untimedFields (r : Record) : List (String × FieldValue) :=
  [("name", .text r.logger), ("msg", .text r.message), ("args", .fixed "()"),
    ("levelname", .text r.levelName), ("levelno", .int r.level (isWritable_of_levelName? r.named)),
    ("pathname", .text r.origin.pathname), ("filename", .text r.origin.filename),
    ("module", .text r.origin.moduleName), ("exc_info", .fixed "None"),
    ("exc_text", .fixed "None"), ("stack_info", .fixed "None"),
    ("lineno", .word r.origin.line.toUInt64), ("funcName", .text r.origin.function),
    ("created", .double r.origin.created.1 r.origin.created.2),
    ("msecs", .double r.origin.milliseconds.1 r.origin.milliseconds.2),
    ("relativeCreated", .double r.origin.sinceStart.1 r.origin.sinceStart.2),
    ("thread", .word r.origin.thread), ("threadName", .text r.origin.threadName),
    ("processName", .text r.origin.processName), ("process", .word r.origin.process.toUInt64),
    ("message", .text r.message)]

def timeField (r : Record) : String × FieldValue := ("asctime", .text r.origin.time)

/-- The fields in their order. A record has its time as text where the template asks for it. -/
def fields (timed : Bool) (r : Record) : List (String × FieldValue) :=
  if timed then r.untimedFields ++ [r.timeField] else r.untimedFields

end Record

/-! ## Directives -/

structure Directive where
  key : Option (List Char) := none
  alternate : Bool := false
  zero : Bool := false
  left : Bool := false
  blank : Bool := false
  plus : Bool := false
  width : Nat := 0
  precision : Option Nat := none

inductive Piece
  | char (c : Char)
  | directive (d : Directive) (letter : Char)

inductive Phase
  | text
  | start
  | key (depth : Nat) (reversed : List Char)
  | flags
  | width
  | precision
  | letter

/-- A template read in part: where the reader is, the directive it is in, and the pieces read, last
first. -/
structure Reader where
  phase : Phase
  directive : Directive
  reversed : List Piece

namespace Reader

def initial : Reader := ⟨.text, {}, []⟩

def atLetter (s : Reader) (c : Char) : Reader :=
  ⟨.text, {}, .directive s.directive c :: s.reversed⟩

/-- The reader after a character that may be a size letter, which has no effect. -/
def atSize (s : Reader) (c : Char) : Reader :=
  if c == 'h' || c == 'l' || c == 'L' then { s with phase := .letter } else s.atLetter c

def maxWidth : Nat := 0x7FFFFFFFFFFFFFFF

def maxPrecision : Nat := 0x7FFFFFFF

def addDigit (limit n : Nat) (c : Char) : Option Nat :=
  let n := 10 * n + (c.toNat - 48)
  if n ≤ limit then some n else none

/-- The reader after a character of the precision. Precisions taken from further arguments are
refused, as there are none. -/
def atPrecision (s : Reader) (c : Char) : Option Reader :=
  if c == '*' then none
  else if c.isDigit then do
    let n ← addDigit maxPrecision (s.directive.precision.getD 0) c
    return { s with directive := { s.directive with precision := some n } }
  else some (s.atSize c)

def atWidth (s : Reader) (c : Char) : Option Reader :=
  if c == '*' then none
  else if c.isDigit then do
    let n ← addDigit maxWidth s.directive.width c
    return { s with phase := .width, directive := { s.directive with width := n } }
  else if c == '.' then
    some { s with phase := .precision, directive := { s.directive with precision := some 0 } }
  else some (s.atSize c)

def atFlags (s : Reader) (c : Char) : Option Reader :=
  let d := s.directive
  let flag (d : Directive) : Option Reader := some { s with phase := .flags, directive := d }
  if c == '#' then flag { d with alternate := true }
  else if c == '0' then flag { d with zero := true }
  else if c == '-' then flag { d with left := true }
  else if c == ' ' then flag { d with blank := true }
  else if c == '+' then flag { d with plus := true }
  else s.atWidth c

def atKey (s : Reader) (depth : Nat) (reversed : List Char) (c : Char) : Reader :=
  if c == ')' then
    match depth with
    | 0 =>
      { s with phase := .flags, directive := { s.directive with key := some reversed.reverse } }
    | n + 1 => { s with phase := .key n (c :: reversed) }
  else if c == '(' then { s with phase := .key (depth + 1) (c :: reversed) }
  else { s with phase := .key depth (c :: reversed) }

def step (s : Reader) (c : Char) : Option Reader :=
  match s.phase with
  | .text =>
    if c == '%' then some { s with phase := .start }
    else some { s with reversed := .char c :: s.reversed }
  | .start =>
    if c == '%' then some { s with phase := .text, reversed := .char c :: s.reversed }
    else if c == '(' then some { s with phase := .key 0 [] }
    else s.atFlags c
  | .key depth reversed => some (s.atKey depth reversed c)
  | .flags => s.atFlags c
  | .width => s.atWidth c
  | .precision => s.atPrecision c
  | .letter => some (s.atLetter c)

end Reader

def pieces? (template : String) : Option (List Piece) :=
  match template.toList.foldlM Reader.step Reader.initial with
  | some ⟨.text, _, reversed⟩ => some reversed.reverse
  | _ => none

/-! ## Rendering -/

def filling (d : Directive) (length : Nat) : List Char := List.replicate (d.width - length) ' '

def Directive.fill (d : Directive) (cs : List Char) : List Char :=
  if d.left then cs ++ filling d cs.length else filling d cs.length ++ cs

def Directive.text (d : Directive) (s : String) : List Char :=
  let cs := s.toList
  d.fill (match d.precision with | some n => cs.take n | none => cs)

/-- A number, by its sign, what stands between sign and digits, and its digits. With the zero flag
zeros fill it up before the digits. -/
def Directive.number (d : Directive) (negative : Bool) (head digits : List Char) : List Char :=
  let sign := if negative then ['-'] else if d.plus then ['+'] else if d.blank then [' '] else []
  let before := sign ++ head
  if d.zero && !d.left then
    before ++ List.replicate (d.width - (before.length + digits.length)) '0' ++ digits
  else d.fill (before ++ digits)

/-- The digits of a natural number in a base, at least as many as the precision asks for. -/
def Directive.digits (d : Directive) (base n : Nat) : List Char :=
  let ds := Nat.toDigits base n
  List.replicate (d.precision.getD 0 - ds.length) '0' ++ ds

def trimZeros (whole places : List Char) : List Char :=
  match (places.reverse.dropWhile (· == '0')).reverse with
  | [] => whole
  | places => whole ++ '.' :: places

/-- Digits before and after the point, which stands without digits after it only if asked for. -/
def withPoint (d : Directive) (whole places : List Char) : List Char :=
  if places.isEmpty && !d.alternate then whole else whole ++ '.' :: places

def Directive.scientific (d : Directive) (places num den : Nat) : List Char :=
  let r := if num = 0 then ⟨List.replicate (places + 1) '0', 0⟩
    else Decimal.rounded (places + 1) num den
  withPoint d (r.digits.take 1) (r.digits.drop 1) ++ Decimal.exponentPart 'e' r.exponent

def Directive.fixed (d : Directive) (places num den : Nat) : List Char :=
  let r := Decimal.fixed places num den
  withPoint d r.1 r.2

/-- The greatest number of significant digits of a double. -/
def maxSignificant : Nat := 767

/-- The digits of a non-negative number `num / den` in the shorter of the two forms. Unless they are
asked for, there are no zeros at the end, and so no more digits than a double can have. -/
def Directive.general (d : Directive) (digits num den : Nat) : List Char :=
  let n := max (if d.alternate then digits else min digits maxSignificant) 1
  let r := if num = 0 then ⟨List.replicate n '0', 0⟩ else Decimal.rounded n num den
  if -4 ≤ r.exponent ∧ r.exponent < n then
    let f := Decimal.fixed (n - 1 - r.exponent).toNat num den
    if d.alternate then withPoint d f.1 f.2 else trimZeros f.1 f.2
  else
    let mantissa := if d.alternate then withPoint d (r.digits.take 1) (r.digits.drop 1)
      else trimZeros (r.digits.take 1) (r.digits.drop 1)
    mantissa ++ Decimal.exponentPart 'e' r.exponent

def Directive.integer? (d : Directive) (letter : Char) (n : Int) : Option (List Char) :=
  let negative := decide (n < 0)
  let head (cs : List Char) : List Char := if d.alternate then cs else []
  if letter == 'd' || letter == 'i' || letter == 'u' then
    some (d.number negative [] (d.digits 10 n.natAbs))
  else if letter == 'o' then some (d.number negative (head ['0', 'o']) (d.digits 8 n.natAbs))
  else if letter == 'x' then some (d.number negative (head ['0', 'x']) (d.digits 16 n.natAbs))
  else if letter == 'X' then
    some (d.number negative (head ['0', 'X']) ((d.digits 16 n.natAbs).map Char.toUpper))
  else if letter == 'c' then
    if 0 ≤ n ∧ n.toNat.isValidChar then some (d.fill [Char.ofNat n.toNat]) else none
  else none

/-- Whether a double has a minus sign, as one of the two zeros has. -/
def isNegative (x : Float) : Bool :=
  match x.toModel.unpack with
  | .finite .negative _ _ _ | .zero .negative => true
  | _ => false

def Directive.double? (d : Directive) (letter : Char) (x : Float) : Option (List Char) := do
  let (m, e) := Double.magnitude x
  let (above, below) := Decimal.powerParts 2 e
  let places := d.precision.getD 6
  let digits ←
    if letter == 'e' || letter == 'E' then some (d.scientific places (m * above) below)
    else if letter == 'f' || letter == 'F' then some (d.fixed places (m * above) below)
    else if letter == 'g' || letter == 'G' then some (d.general places (m * above) below)
    else none
  return d.number (isNegative x) [] (if letter.isUpper then digits.map Char.toUpper else digits)

namespace FieldValue

/-- The integer that a field gives a letter. A double gives its integer part to letters of decimal
integers only. -/
def integer? (letter : Char) : FieldValue → Option Int
  | int n _ => some n
  | double x _ =>
    if letter == 'd' || letter == 'i' || letter == 'u' then Double.truncate? x else none
  | _ => none

def double? : FieldValue → Option Float
  | int n _ => Double.ofInt? n
  | double x _ => some x
  | _ => none

def literal (quote : String → String) : FieldValue → String
  | text s => quote s
  | int n _ => Decimal.integer n
  | double x _ => Decimal.literal x
  | fixed literal => literal

end FieldValue

inductive Operand
  | field (v : FieldValue)
  | record (fields : List (String × FieldValue))

namespace Operand

def literal (quote : String → String) : Operand → String
  | field v => v.literal quote
  | record fields =>
    "\x7b" ++ ", ".intercalate (fields.map fun f => quote f.1 ++ ": " ++ f.2.literal quote) ++ "\x7d"

def display : Operand → String
  | field (.text s) => s
  | v => v.literal Text.quoted

end Operand

def maxFilling : Nat := 0x1000000

/-- Whether the precision of a directive for a number asks for zeros. A character has none, and the
shorter form of a double keeps them only if asked to. -/
def Directive.asksForZeros (d : Directive) (letter : Char) : Bool :=
  letter != 'c' && (d.alternate || letter.toLower != 'g')

/-- A number written by a directive, if its letter suits it and the precision leaves room for it. -/
def Directive.number? (d : Directive) (letter : Char) (v : FieldValue) : Option (List Char) :=
  if maxFilling < d.precision.getD 0 ∧ d.asksForZeros letter then none
  else ((v.integer? letter).bind (d.integer? letter)).or (v.double?.bind (d.double? letter))

/-- What is written by a directive, if its letter suits it and the width leaves room for it. -/
def Directive.render? (d : Directive) (letter : Char) (v : Operand) : Option (List Char) :=
  if maxFilling < d.width then none
  else if letter == 's' then some (d.text v.display)
  else if letter == 'r' then some (d.text (v.literal Text.quoted))
  else if letter == 'a' then some (d.text (v.literal Text.quotedAscii))
  else
    match v with
    | .field (.text s) => if letter == 'c' && s.length == 1 then some (d.fill s.toList) else none
    | .field v => d.number? letter v
    | .record _ => none

def usesTime : List Char → Bool
  | [] => false
  | '%' :: cs => "(asctime)".toList.isPrefixOf cs || usesTime cs
  | _ :: cs => usesTime cs

/-- What a directive stands for. Where a directive names the time, the record has it. -/
def Directive.operand? (d : Directive) (timed : Bool) (r : Record) : Option Operand :=
  match d.key with
  | some key => ((r.fields true).lookup (String.ofList key)).map .field
  | none => some (.record (r.fields timed))

def Piece.render? (timed : Bool) (r : Record) : Piece → Option (List Char)
  | char c => some [c]
  | directive d letter => do d.render? letter (← d.operand? timed r)

def Piece.directive? : Piece → Option Directive
  | char _ => none
  | directive d _ => some d

def keysFollow (pieces : List Piece) : Bool :=
  ((pieces.filterMap Piece.directive?).drop 1).all (·.key.isSome)

/-- A template filled in from a record; nothing if a directive is malformed, stands for the record
after another directive, or does not suit what it stands for. -/
def render? (template : String) (r : Record) : Option String := do
  let pieces ← pieces? template
  if keysFollow pieces then
    let parts ← pieces.mapM (Piece.render? (usesTime template.toList) r)
    return String.ofList parts.flatten
  else none

/-! ## Acceptance -/

/-- The letters that may end a directive. The last three are letters whose other case is among
them. -/
def directiveLetters : List Char :=
  "diouxefgcrsa%DIOUXEFGCRSA".toList ++ [Char.ofNat 0x130, Char.ofNat 0x131, Char.ofNat 0x17F]

def afterNumber? : List Char → Option (List Char)
  | '*' :: cs => some cs
  | c :: cs => if Text.isDecimal c then some (cs.dropWhile Text.isDecimal) else none
  | [] => none

def startsDirective : List Char → Bool
  | '(' :: c :: cs =>
    match (c :: cs).dropWhile Text.isWordChar with
    | ')' :: rest =>
      let rest := rest.dropWhile "#0+ -".toList.contains
      let rest := (afterNumber? rest).getD rest
      let rest := match rest with
        | '.' :: more => (afterNumber? more).getD rest
        | _ => rest
      Text.isWordChar c && (rest.head?.any directiveLetters.contains)
    | _ => false
  | _ => false

def hasDirective : List Char → Bool
  | [] => false
  | '%' :: cs => startsDirective cs || hasDirective cs
  | _ :: cs => hasDirective cs

def messageTemplate : String := "%(message)s"

/-- Whether a template is accepted: a directive with a key must stand in it. -/
def accepts (template : String) : Bool := hasDirective template.toList

end Exif.Logging
