import Exif.Text.Printable

/-!
Quoted texts and quoted bytes. A text stands between apostrophes, or between quotation marks if it
holds apostrophes and no quotation marks; the closing mark, the backslash and everything without a
visible form are escaped.
-/

namespace Exif.Text

def apostrophe : Char := Char.ofNat 39

/-- The mark that spares escaping apostrophes. -/
def quotationMark : Char := Char.ofNat 34

def backslash : Char := Char.ofNat 92

def quoteMark (cs : List Char) : Char :=
  if cs.contains apostrophe && !cs.contains quotationMark then quotationMark else apostrophe

def hexDigits (width n : Nat) : List Char :=
  let ds := Nat.toDigits 16 n
  List.replicate (width - ds.length) '0' ++ ds

def codeEscape (n : Nat) : List Char :=
  if n < 0x100 then backslash :: 'x' :: hexDigits 2 n
  else if n < 0x10000 then backslash :: 'u' :: hexDigits 4 n
  else backslash :: 'U' :: hexDigits 8 n

/-- The escapes that have a letter of their own, and those of the backslash and the mark. -/
def shortEscape? (mark c : Char) : Option (List Char) :=
  if c == mark || c == backslash then some [backslash, c]
  else if c == '\n' then some [backslash, 'n']
  else if c == '\r' then some [backslash, 'r']
  else if c == '\t' then some [backslash, 't']
  else none

/-- A character between quotes, where `visible` says which characters stand for themselves. -/
def quoteChar (visible : Char → Bool) (mark c : Char) : List Char :=
  match shortEscape? mark c with
  | some escape => escape
  | none => if visible c then [c] else codeEscape c.toNat

def quoteWith (visible : Char → Bool) (cs : List Char) : List Char :=
  let mark := quoteMark cs
  mark :: cs.flatMap (quoteChar visible mark) ++ [mark]

def quoted (s : String) : String := String.ofList (quoteWith isPrintable s.toList)

def isPlain (c : Char) : Bool := 0x20 ≤ c.toNat && c.toNat < 0x7F

def quotedAscii (s : String) : String := String.ofList (quoteWith isPlain s.toList)

/-- Bytes between quotes, after the letter that tells them from a text. -/
def quotedBytes (bytes : List UInt8) : String :=
  String.ofList ('b' :: quoteWith isPlain (bytes.map fun b => Char.ofNat b.toNat))

end Exif.Text
