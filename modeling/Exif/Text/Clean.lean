import Exif.Text.Blank

/-!
Clean text: what is left of a recorded text once its padding is gone. Fixed-size text fields are
filled up with NUL characters, and many writers add blanks.
-/

namespace Exif.Text

def isNul (c : Char) : Bool := c == Char.ofNat 0

/-- Cuts blanks off both ends, then NULs off the end, then the blanks that stood before them. -/
def cleanChars (cs : List Char) : List Char := trim isBlank (trimEnd isNul (trim isBlank cs))

def clean (s : String) : Option String :=
  match cleanChars s.toList with
  | [] => none
  | cs => some (String.ofList cs)

end Exif.Text
