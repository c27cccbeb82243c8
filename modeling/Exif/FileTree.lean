import Exif.Decimal.Digits
import Exif.OrderedMap
import Exif.Path
import Exif.Text.Quoted

/-!
A tree of files and directories, as a finite map from places to what is there. A place is a list of
components, from the working directory on or from the root on.
-/

namespace Exif

inductive Node (α : Type)
  | file (content : α)
  | directory

inductive PathFault
  | notFound
  | alreadyExists
  | notADirectory
  | isADirectory
  | nameTooLong
deriving DecidableEq, Repr

def PathFault.code : PathFault → Nat
  | notFound => 2
  | alreadyExists => 17
  | notADirectory => 20
  | isADirectory => 21
  | nameTooLong => 36

def PathFault.words : PathFault → String
  | notFound => "No such file or directory"
  | alreadyExists => "File exists"
  | notADirectory => "Not a directory"
  | isADirectory => "Is a directory"
  | nameTooLong => "File name too long"

/-- Why a path cannot be used as asked. A path that holds a NUL is not even shown to the system. -/
inductive PathError
  | fault (what : PathFault) (path : Path)
  | embeddedNul

def PathError.message : PathError → String
  | fault what path =>
    "[Errno " ++ Decimal.integer what.code ++ "] " ++ what.words ++ ": " ++ Text.quoted path.text
  | embeddedNul => "embedded null byte"

/-- What a path leads to. A path that is too long to be looked up is refused. -/
inductive PathState (α : Type)
  | missing
  | directory
  | file (content : α)
  | refused (e : PathError)

structure FileTree (α : Type) where
  nodes : OrderedMap (List String) (Node α)

namespace FileTree

variable {α : Type}

def empty : FileTree α := ⟨.empty⟩

instance : Inhabited (FileTree α) := ⟨empty⟩

/-- The component that leads to the directory above. -/
def above : String := ".."

/-- The place of the root. No other place has its component, which is a separator. -/
def root : List String := ["/"]

def start : Path.Root → List String
  | .none => []
  | .slash | .twoSlashes => root

/-- What stands at a place. The root, the working directory and all directories above it are there;
a place above it starts with as many components `..` as it is above. -/
def at? (t : FileTree α) (place : List String) : Option (Node α) :=
  if place = root ∨ place.all (· = above) then some .directory else t.nodes.get? place

/-- The place that a component leads to from a directory. Above the root there is the root. -/
def enter (place : List String) (component : String) : List String :=
  if component ≠ above ∨ place.all (· = above) then place ++ [component]
  else if place = root then root
  else place.dropLast

def maxComponent : Nat := 255

def maxPath : Nat := 4095

/-- One step of following a path: the place reached must be a directory to go on from. -/
def step (t : FileTree α) (place : List String) (component : String) :
    Except PathFault (List String) :=
  match t.at? place with
  | none => .error .notFound
  | some (.file _) => .error .notADirectory
  | some .directory =>
    if maxComponent < component.utf8ByteSize then .error .nameTooLong
    else .ok (enter place component)

def follow (t : FileTree α) (p : Path) : Except PathFault (List String) :=
  p.components.foldlM t.step (start p.root)

/-- The place that a path leads to, if every component before the last leads to a directory. -/
def reach (t : FileTree α) (p : Path) : Except PathError (List String) :=
  if p.text.toList.contains (Char.ofNat 0) then .error .embeddedNul
  else if maxPath < p.text.utf8ByteSize then .error (.fault .nameTooLong p)
  else (t.follow p).mapError (.fault · p)

def state (t : FileTree α) (p : Path) : PathState α :=
  match (t.reach p).map t.at? with
  | .ok (some .directory) => .directory
  | .ok (some (.file content)) => .file content
  | .ok none => .missing
  | .error (.fault .nameTooLong p) => .refused (.fault .nameTooLong p)
  | .error _ => .missing

def directoryError (t : FileTree α) (p : Path) : PathError :=
  match (t.reach p).map t.at? with
  | .error e => e
  | .ok none => .fault .notFound p
  | .ok (some _) => .fault .notADirectory p

def addDirectory (t : FileTree α) (place : List String) : FileTree α :=
  match t.at? place with
  | none => ⟨t.nodes.insert place .directory⟩
  | some _ => t

/-- The place that a path denotes when `..` takes back the component before it, whatever stands on
the way. -/
def lexicalPlace (p : Path) : List String := p.components.foldl enter (start p.root)

def addDirectories (t : FileTree α) (p : Path) : FileTree α :=
  (List.range p.components.length).foldl
    (fun t n => t.addDirectory (lexicalPlace { p with components := p.components.take (n + 1) })) t

def putFile (t : FileTree α) (place : List String) (content : α) : FileTree α :=
  ⟨t.nodes.insert place (.file content)⟩

/-- Whether a directory can have an entry of a name. The directory above and the root are entries of
none, although places of files above the working directory and below the root begin with theirs. -/
def isEntry (name : String) : Bool := name != above && [name] != root

def isBelow (place p : List String) : Bool :=
  place.isPrefixOf p && place.length < p.length && (p.drop place.length).all isEntry

def nodesBelow (t : FileTree α) (place : List String) : List (List String × Node α) :=
  t.nodes.entries.filterMap fun (p, node) =>
    if isBelow place p then some (p.drop place.length, node) else none

end FileTree

end Exif
