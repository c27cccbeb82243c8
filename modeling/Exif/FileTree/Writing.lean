import Exif.FileTree

/-!
Making directories, and opening text files to write at their ends.
-/

namespace Exif.FileTree

variable {α : Type}

/-- A path, by its components last first. -/
def pathOf (root : Path.Root) (reversed : List String) : Path := ⟨root, reversed.reverse⟩

/-- Makes one directory. The directory that is to hold it must be there, and nothing may stand in
its place. -/
def makeDirectory (t : FileTree α) (p : Path) : Except PathError (FileTree α) := do
  let place ← t.reach p
  match t.at? place with
  | some _ => .error (.fault .alreadyExists p)
  | none => .ok (t.addDirectory place)

def isDirectory (t : FileTree α) (p : Path) : Bool :=
  match t.state p with
  | .directory => true
  | _ => false

def ensureDirectory (t : FileTree α) (p : Path) : FileTree α × Option PathError :=
  match t.makeDirectory p with
  | .ok t => (t, none)
  | .error e => (t, if t.isDirectory p then none else some e)

def ensureDirectories (t : FileTree α) (root : Path.Root) :
    List String → FileTree α × Option PathError
  | [] => (t, none)
  | component :: holder =>
    let p := pathOf root (component :: holder)
    match t.reach p with
    | .error (.fault .notFound _) =>
      match t.ensureDirectories root holder with
      | (t, some e) => (t, some e)
      | (t, none) => t.ensureDirectory p
    | _ => t.ensureDirectory p

/-- The path in which `..` has taken back the component before it. -/
def lexical (p : Path) : Path :=
  { p with components := (lexicalPlace p).drop (start p.root).length }

def openToAppend (t : FileTree String) (p : Path) :
    FileTree String × Except PathError (List String) :=
  match t.reach p with
  | .error e => (t, .error e)
  | .ok place =>
    match t.at? place with
    | some .directory => (t, .error (.fault .isADirectory p))
    | some (.file _) => (t, .ok place)
    | none => (t.putFile place "", .ok place)

def append (t : FileTree String) (place : List String) (text : String) : FileTree String :=
  match t.at? place with
  | some (.file content) => t.putFile place (content ++ text)
  | _ => t

end Exif.FileTree
