import Exif.FileFormat
import Exif.FileTree

/-!
The picture files of a directory, in path order. Each entry that is met is looked up by its path, and
a path that is too long ends the walk; so does a directory that lies too deep for the walk to enter.
-/

namespace Exif

structure Selection where
  recursive : Bool
  includeHidden : Bool
deriving DecidableEq, Repr

inductive WalkError
  | path (e : PathError)
  | tooDeep

def WalkError.message : WalkError → String
  | path e => e.message
  | tooDeep => "maximum recursion depth exceeded"

def isHidden (name : String) : Bool := name.toList.head? = some '.'

namespace Selection

def meets (sel : Selection) (components : List String) : Bool :=
  sel.recursive || components.length = 1

def accepts (sel : Selection) (name : String) : Bool :=
  (sel.includeHidden || !isHidden name) && (FileFormat.ofName name).isImage

end Selection

def sortByPath {α : Type} (files : List (List String × α)) : List (List String × α) :=
  files.mergeSort fun a b => !Path.precedes b.1 a.1

namespace FileTree

variable {α : Type}

def wantedFile? (sel : Selection) : List String × Node α → Option (List String × α)
  | (path, .file content) => if sel.accepts (path.getLast?.getD "") then some (path, content) else none
  | (_, .directory) => none

/-- The wanted files among the entries met, in the order of their paths. -/
def gather (sel : Selection) (met : List (List String × Node α)) : List (List String × α) :=
  sortByPath (met.filterMap (wantedFile? sel))

def met (t : FileTree α) (place : List String) (sel : Selection) : List (List String × Node α) :=
  (t.nodesBelow place).filter fun e => sel.meets e.1

/-- What ends a walk through a directory at an entry. A walk can enter directories as far below one
another as its nesting. -/
def obstacle? (t : FileTree α) (nesting : Nat) (dir : Path) (sel : Selection) :
    List String × Node α → Option WalkError
  | (path, node) =>
    match t.state (dir.below path), node with
    | .refused e, _ => some (.path e)
    | _, .directory => if sel.recursive && nesting < path.length then some .tooDeep else none
    | _, .file _ => none

def collect (t : FileTree α) (place : List String) (sel : Selection) : List (List String × α) :=
  gather sel (t.met place sel)

/-- The wanted files of the directory that a path leads to, by their paths, or what ends the walk. A
path that leads to no directory is an error; with subdirectories it is one only if it is refused, and
else it has no files. -/
def collectIn (t : FileTree α) (nesting : Nat) (dir : Path) (sel : Selection) :
    Except WalkError (List (Path × α)) :=
  match t.reach dir, t.state dir with
  | .ok place, .directory =>
    match (t.met place sel).findSome? (t.obstacle? nesting dir sel) with
    | some e => .error e
    | none => .ok ((t.collect place sel).map fun f => (dir.below f.1, f.2))
  | _, .refused e => .error (.path e)
  | _, _ => if sel.recursive then .ok [] else .error (.path (t.directoryError dir))

end FileTree

end Exif
