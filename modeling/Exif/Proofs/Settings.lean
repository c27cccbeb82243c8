import Exif.Proofs.Reading
import Exif.Settings

/-! Which document settings come from, what it has for each of them, and what may be wrong with it.
Nothing but the first path of a search list that leads anywhere counts, and a setting that the document
there does not have is at its default. -/

namespace Exif

def PathState.leads {α : Type} : PathState α → Bool
  | missing => false
  | directory | file _ | refused _ => true

namespace Settings

/-- The first path of a list that leads anywhere, and what it leads to. -/
def source (files : Path → PathState Document) (search : List Path) :
    Option (Path × PathState Document) :=
  (search.find? fun p => (files p).leads).map fun p => (p, files p)

def sourceDocument : Option (Path × PathState Document) → Datum
  | some (_, .file (.parsed d)) => d
  | _ => .none

def sourceFaults : Option (Path × PathState Document) → List SettingsError
  | none | some (_, .file (.parsed _)) => []
  | some (_, .file (.malformed kind message)) => [.malformed kind message]
  | some (p, .missing) => [.path (.fault .notFound p)]
  | some (p, .directory) => [.path (.fault .isADirectory p)]
  | some (_, .refused e) => [.path e]

def sourceLog : Option (Path × PathState Document) → List LogLine
  | none | some (_, .refused _) => []
  | some (p, .missing) | some (p, .directory) | some (p, .file _) =>
    [.info .settings ("Loading config from " ++ p.text)]

/-- A section of a document. One that is missing or no record has no fields. -/
def sectionOf (d : Datum) (name : String) : List (String × Datum) :=
  match d with
  | .record fs =>
    match fs.lookup name with
    | some (.record gs) => gs
    | _ => []
  | _ => []

/-- What is wrong with a document as far as a section of it goes: document or section count as true,
but are no records. -/
def sectionFaults (d : Datum) (name : String) : List SettingsError :=
  match d with
  | .record fs =>
    match fs.lookup name with
    | none | some (.record _) => []
    | some g => if g.truthy then [.notASection g] else []
  | d => if d.truthy then [.notASection d] else []

def configuredSwitch (d : Datum) (name : String) : Bool := switch (sectionOf d "scan") name

def configuredBackend (d : Datum) : Datum :=
  ((sectionOf d "reader").lookup "backend").getD (.text "auto")

def levelText (d : Datum) : Except LiteralFault String :=
  (((sectionOf d "logging").lookup "level").map Datum.display).getD (.ok "INFO")

/-- Why what a document has for the log level is no text: a number in it has too many digits, or lies
beyond the doubles. -/
def levelFault? (d : Datum) : Option LiteralFault :=
  match levelText d with
  | .ok _ => none
  | .error fault => some fault

def configuredLevel (d : Datum) : String := Text.upper ((levelText d).toOption.getD "")

def backendFaults (d : Datum) : List SettingsError :=
  match Backend.ofDatum? (configuredBackend d) with
  | some _ => []
  | none => [.unknownBackend (configuredBackend d)]

/-! ## Loading -/

theorem choose_eq (files : Path → PathState Document) (search : List Path) :
    choose files search none =
      match source files search with
      | none => .ok none
      | some (_, .refused e) => .error (.path e)
      | some (p, _) => .ok (some p) := by
  rw [choose]
  induction search with
  | nil => rfl
  | cons p ps ih =>
    rw [firstThere]
    cases hp : files p with
    | missing =>
      have hsource : source files (p :: ps) = source files ps := by
        simp [source, hp, PathState.leads]
      rw [hsource, ← ih]
      rfl
    | directory | file d | refused e =>
      simp only [source, List.find?_cons, hp, PathState.leads, Option.map_some]
      rfl

theorem load_eq (files : Path → PathState Document) (search : List Path) :
    load files search none =
      let s := source files search
      (sourceLog s, firstError (sourceFaults s)
        (if (sourceDocument s).truthy then sourceDocument s else .record [])) := by
  rw [load, choose_eq]
  cases hs : source files search with
  | none => rfl
  | some s =>
    obtain ⟨q, hq, rfl⟩ := Option.map_eq_some_iff.1 hs
    cases hstate : files q with
    | missing | directory | refused e => simp only [hstate]; rfl
    | file content => cases content <;> (simp only [hstate]; rfl)

/-! ## Sections -/

theorem fields_eq (d : Datum) :
    fields (if d.truthy then d else .record []) =
      match d with
      | .record fs => .ok fs
      | d => firstError (if d.truthy then [.notASection d] else []) [] := by
  cases d with
  | record fs => cases fs <;> rfl
  | _ =>
    dsimp only
    split <;> rfl

/-- The fields of a section of a loaded document. -/
theorem sectionFields_eq (d : Datum) (name : String) :
    sectionFields (if d.truthy then d else .record []) name =
      firstError (sectionFaults d name) (sectionOf d name) := by
  rw [sectionFields, fields_eq]
  cases d with
  | record fs =>
    simp only [bind, Except.bind, sectionFaults, sectionOf]
    cases fs.lookup name with
    | none => rfl
    | some g =>
      cases g with
      | record gs => cases gs <;> rfl
      | _ =>
        dsimp only
        split <;> rfl
  | _ =>
    dsimp only [sectionFaults, sectionOf]
    split <;> rfl

theorem switches_eq (d : Datum) :
    switches (if d.truthy then d else .record []) = firstError (sectionFaults d "scan")
      ⟨configuredSwitch d "recursive", configuredSwitch d "include_hidden"⟩ := by
  rw [switches, sectionFields_eq]
  cases sectionFaults d "scan" <;> rfl

theorem logLevel_eq (d : Datum) :
    logLevel (if d.truthy then d else .record []) =
      firstError (sectionFaults d "logging" ++ ((levelFault? d).map .noLiteral).toList)
        (configuredLevel d) := by
  rw [logLevel, sectionFields_eq]
  cases sectionFaults d "logging" with
  | cons e es => rfl
  | nil =>
    simp only [firstError, bind, Except.bind, List.nil_append, configuredLevel, levelFault?, levelText]
    cases (sectionOf d "logging").lookup "level" with
    | none => rfl
    | some g =>
      dsimp only [Option.map_some, Option.getD_some]
      cases g.display <;> rfl

/-- The backend that a loaded document has. -/
theorem backend_eq (d : Datum) :
    (fun b => Datum.text b.name) <$> backend (if d.truthy then d else .record []) =
      firstError (sectionFaults d "reader" ++ backendFaults d) (configuredBackend d) := by
  rw [backend, sectionFields_eq]
  cases sectionFaults d "reader" with
  | cons e es => rfl
  | nil =>
    simp only [firstError, bind, Except.bind, List.nil_append, backendFaults, configuredBackend]
    cases (sectionOf d "reader").lookup "backend" with
    | none => rfl
    | some g =>
      dsimp only [Option.getD_some]
      cases hg : Backend.ofDatum? g with
      | none => rfl
      | some b => exact congrArg Except.ok (Backend.ofDatum?_eq_some_iff.1 hg).symm

end Settings

end Exif
