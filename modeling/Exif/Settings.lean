import Exif.Image
import Exif.LogLine
import Exif.Text.UpperCase

/-!
Settings, from the first document that a list of paths leads to. A document holds sections, which
are records; a section that is missing or empty leaves its settings at their defaults.
-/

namespace Exif

/-- What the parser makes of a file: a datum, or an error of a kind of its own. -/
inductive Document
  | parsed (d : Datum)
  | malformed (kind message : String)

inductive SettingsError
  | fileNotFound (path : Path)
  | path (e : PathError)
  | malformed (kind message : String)
  | notASection (given : Datum)
  | unknownBackend (given : Datum)
  | noLiteral (fault : LiteralFault)

def SettingsError.message : SettingsError → String
  | fileNotFound p => "Config file not found: " ++ p.text
  | path e => e.message
  | malformed _ message => message
  | notASection given => "'" ++ given.typeName ++ "' object has no attribute 'get'"
  | unknownBackend given =>
    given.literalOrFault fun literal =>
      "Config 'reader.backend' must be one of " ++ Backend.namesLiteral ++ ", got " ++ literal
  | noLiteral fault => fault.message

namespace Settings

/-! ## Loading -/

/-- Whether a path leads to anything; an error if it is refused. -/
def isThere {α : Type} : PathState α → Except SettingsError Bool
  | .missing => .ok false
  | .directory | .file _ => .ok true
  | .refused e => .error (.path e)

def firstThere (files : Path → PathState Document) : List Path → Except SettingsError (Option Path)
  | [] => .ok none
  | p :: ps => do if ← isThere (files p) then .ok (some p) else firstThere files ps

/-- The path to load: an explicit one must be there; else the first of the list that is there. -/
def choose (files : Path → PathState Document) (search : List Path) :
    Option Path → Except SettingsError (Option Path)
  | some p => do if ← isThere (files p) then .ok (some p) else .error (.fileNotFound p)
  | none => firstThere files search

/-- The document in a file; what counts as false stands for an empty record. -/
def document (p : Path) : PathState Document → Except SettingsError Datum
  | .missing => .error (.path (.fault .notFound p))
  | .directory => .error (.path (.fault .isADirectory p))
  | .refused e => .error (.path e)
  | .file (.malformed kind message) => .error (.malformed kind message)
  | .file (.parsed d) => .ok (if d.truthy then d else .record [])

/-- Loads settings: what is logged, and the document. Without a file it is an empty record. -/
def load (files : Path → PathState Document) (search : List Path) (explicit : Option Path) :
    List LogLine × Except SettingsError Datum :=
  match choose files search explicit with
  | .error e => ([], .error e)
  | .ok none => ([], .ok (.record []))
  | .ok (some p) => ([.info .settings ("Loading config from " ++ p.text)], document p (files p))

/-! ## Reading -/

def fields : Datum → Except SettingsError (List (String × Datum))
  | .record fs => .ok fs
  | d => .error (.notASection d)

def sectionFields (config : Datum) (name : String) :
    Except SettingsError (List (String × Datum)) := do
  match (← fields config).lookup name with
  | none => return []
  | some d => if d.truthy then fields d else return []

def backend (config : Datum) : Except SettingsError Backend := do
  match (← sectionFields config "reader").lookup "backend" with
  | none => return .auto
  | some d =>
    match Backend.ofDatum? d with
    | some b => return b
    | none => .error (.unknownBackend d)

structure Switches where
  recursive : Bool
  includeHidden : Bool
deriving DecidableEq, Repr

def switch (fields : List (String × Datum)) (name : String) : Bool :=
  ((fields.lookup name).map Datum.truthy).getD false

def switches (config : Datum) : Except SettingsError Switches := do
  let scan ← sectionFields config "scan"
  return ⟨switch scan "recursive", switch scan "include_hidden"⟩

def logLevel (config : Datum) : Except SettingsError String := do
  match (← sectionFields config "logging").lookup "level" with
  | none => return "INFO"
  | some d => Text.upper <$> d.display.mapError .noLiteral

end Settings

end Exif
