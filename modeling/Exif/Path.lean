/-!
File paths in normal form: empty components and components `.` are gone, `..` stays. Paths are
compared component by component.
-/

namespace Exif

/-- Where a path starts: at the working directory, at the root, or at the root that exactly two
slashes name. -/
inductive Path.Root
  | none
  | slash
  | twoSlashes
deriving DecidableEq, Repr

structure Path where
  root : Path.Root
  components : List String
deriving DecidableEq, Repr

namespace Path

def splitSlashes : List Char → List (List Char)
  | [] => [[]]
  | c :: cs =>
    match c == '/', splitSlashes cs with
    | true, pieces => [] :: pieces
    | false, [] => [[c]]
    | false, piece :: pieces => (c :: piece) :: pieces

def isComponent (piece : List Char) : Bool := piece != [] && piece != ['.']

def Root.ofChars : List Char → Root
  | '/' :: '/' :: '/' :: _ => .slash
  | '/' :: '/' :: _ => .twoSlashes
  | '/' :: _ => .slash
  | _ => .none

def Root.text : Root → String
  | .none => ""
  | .slash => "/"
  | .twoSlashes => "//"

def ofString (s : String) : Path where
  root := .ofChars s.toList
  components := ((splitSlashes s.toList).filter isComponent).map String.ofList

/-- The text of a path; the empty path is the directory `.`. -/
def text (p : Path) : String :=
  match p.root, p.components with
  | .none, [] => "."
  | r, cs => r.text ++ "/".intercalate cs

/-- The final component, empty for a root and for the working directory. -/
def name (p : Path) : String := p.components.getLast?.getD ""

def parent (p : Path) : Path := { p with components := p.components.dropLast }

def below (p : Path) (components : List String) : Path :=
  { p with components := p.components ++ components }

/-- A name's extension with its dot: from the last dot on, where that is neither the first nor the
last character. -/
def extension (name : List Char) : List Char :=
  let tail := (name.reverse.takeWhile (· != '.')).reverse
  if tail.length + 1 < name.length ∧ tail ≠ [] then '.' :: tail else []

/-- Whether the components of one path come before those of another; a proper beginning comes
first, and components are compared by code points. -/
def precedes : List String → List String → Bool
  | _, [] => false
  | [], _ :: _ => true
  | a :: as, b :: bs => if a = b then precedes as bs else a < b

end Path

end Exif
