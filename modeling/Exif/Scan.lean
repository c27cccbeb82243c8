import Exif.Collect
import Exif.Settings
import Exif.Table

/-!
Scanning a directory: one row for every picture file that can be read, one warning for every other.
-/

namespace Exif

/-- What a scan is asked to do; what is left open comes from the settings. -/
structure ScanRequest where
  directory : Path
  recursive : Option Bool
  includeHidden : Option Bool
  backend : Option Datum

/-- What a scan relies on where it runs: how far it can walk down, and how its table shows cells. -/
structure Host where
  nesting : Nat
  display : Display

def Host.dataFrames (nesting : Nat) : Host := ⟨nesting, DataFrame.display⟩

inductive ScanError
  | directoryNotFound (path : Path)
  | notADirectory (path : Path)
  | settings (e : SettingsError)
  | path (e : PathError)
  | walk (e : WalkError)
  | read (e : ReadError)
  | failure (e : Failure)

def ScanError.message : ScanError → String
  | directoryNotFound p => "Directory not found: " ++ p.text
  | notADirectory p => "Not a directory: " ++ p.text
  | settings e => e.message
  | path e => e.message
  | walk e => e.message
  | read e => e.message
  | failure e => e.message

namespace Scan

structure Choices where
  selection : Selection
  backend : Datum

def explicit? (r : ScanRequest) : Option Choices :=
  match r.recursive, r.includeHidden, r.backend with
  | some recursive, some includeHidden, some backend => some ⟨⟨recursive, includeHidden⟩, backend⟩
  | _, _, _ => none

def complete (r : ScanRequest) (config : Datum) : Except SettingsError Choices := do
  let switches ← Settings.switches config
  let backend ← match r.backend with
    | some b => pure b
    | none => (.text ·.name) <$> Settings.backend config
  return ⟨⟨r.recursive.getD switches.recursive, r.includeHidden.getD switches.includeHidden⟩,
    backend⟩

def choices (files : Path → PathState Document) (search : List Path) (r : ScanRequest) :
    List LogLine × Except SettingsError Choices :=
  match explicit? r with
  | some c => ([], .ok c)
  | none =>
    let (log, config) := Settings.load files search none
    (log, config.bind (complete r))

inductive Entry
  | row (cells : List Cell)
  | warning (line : LogLine)

/-- The entry of a file, or an error that ends the scan. -/
def entry (backend : Datum) (file : Path × Image) : Except ScanError Entry :=
  match (readTagStore backend file.1 (.file file.2)).result with
  | .error (.importFailed p reason) =>
    .ok (.warning (.warning .scan ("Skipping " ++ p.text ++ ": " ++ reason.text)))
  | .error e => .error (.read e)
  | .ok store =>
    match store.summary with
    | .ok summary =>
      .ok (.row (.value (.text file.1.name) :: .path file.1 :: Table.cells summary))
    | .error e => .error (.failure e)

structure Progress where
  rows : List (List Cell)
  log : List LogLine

def Progress.add (s : Progress) : Entry → Progress
  | .row cells => { s with rows := s.rows ++ [cells] }
  | .warning line => { s with log := s.log ++ [line] }

def entries (backend : Datum) : List (Path × Image) → Progress → Progress × Option ScanError
  | [], s => (s, none)
  | file :: files, s =>
    match entry backend file with
    | .ok e => entries backend files (s.add e)
    | .error e => (s, some e)

def columns : List String := "filename" :: "file_path" :: Table.quantityColumns

def closingLine (rows : Nat) (dir : Path) : LogLine :=
  .info .scan ("Summarized " ++ Decimal.integer rows ++ " image files in " ++ dir.text)

def summarize (host : Host) (tree : FileTree Image) (dir : Path) (c : Choices) :
    List LogLine × Except ScanError Table :=
  match tree.collectIn host.nesting dir c.selection with
  | .error e => ([], .error (.walk e))
  | .ok files =>
    match entries c.backend files ⟨[], []⟩ with
    | (s, some e) => (s.log, .error e)
    | (s, none) =>
      (s.log ++ [closingLine s.rows.length dir],
        .ok (Table.ofRows host.display columns s.rows))

end Scan

/-- Scans a directory: what is logged, and the table. The directory is checked before settings are
loaded, and they are loaded before any picture is read. -/
def scanDirectory (host : Host) (tree : FileTree Image) (files : Path → PathState Document)
    (search : List Path) (r : ScanRequest) : List LogLine × Except ScanError Table :=
  match tree.state r.directory with
  | .missing => ([], .error (.directoryNotFound r.directory))
  | .file _ => ([], .error (.notADirectory r.directory))
  | .refused e => ([], .error (.path e))
  | .directory =>
    match Scan.choices files search r with
    | (log, .error e) => (log, .error (.settings e))
    | (log, .ok c) =>
      let (rest, result) := Scan.summarize host tree r.directory c
      (log ++ rest, result)

end Exif
