import Exif.Proofs.Settings

/-! Which documents settings can be read from. A document and its sections are to be records, or to count as
false and stand for empty ones. Anything else is let through when it is loaded, and each reading that comes
upon it fails. -/

namespace Exif

/-- Whether a datum counts as true and is no record. -/
def Datum.isStray : Datum → Bool
  | .record _ => false
  | d => d.truthy

namespace Settings

def sectionNames : List String := ["reader", "scan", "logging"]

def backendNames : List String := ["auto", "exifread", "pillow"]

/-- What stands where a section is looked for: what a record has for it, and anything else itself. -/
def standsFor (d : Datum) (name : String) : Option Datum :=
  match d with
  | .record fs => fs.lookup name
  | d => some d

/-- The stray datum that stands where a section is looked for, if there is one. -/
def stray? (d : Datum) (name : String) : Option Datum := (standsFor d name).filter Datum.isStray

/-- The backend that settings are read to have is one of the three, or it is refused as none of them. -/
def BackendDocumented (config : Datum) : Prop :=
  (∃ b, backend config = .ok b ∧ b.name ∈ backendNames) ∨
    ∃ given, backend config = .error (.unknownBackend given) ∧ ∀ name ∈ backendNames, given ≠ .text name

/-- What is documented of loaded settings: they are a record, and only a backend of another name is an
error. -/
structure Documented (config : Datum) : Prop where
  record : ∃ fs, config = .record fs
  backend : BackendDocumented config
  switches : ∃ s, Settings.switches config = .ok s
  logLevel : ∃ text, Settings.logLevel config = .ok text

variable {d : Datum} {name : String}

theorem faults_of_stray (h : ∀ fs, d ≠ .record fs) :
    (((some d).filter Datum.isStray).map SettingsError.notASection).toList =
      if d.truthy then [.notASection d] else [] := by
  have hstray : d.isStray = d.truthy := by
    cases d with
    | record fs => exact absurd rfl (h fs)
    | _ => rfl
  rw [Option.filter_some, hstray]
  cases d.truthy <;> rfl

theorem standsFor_of_ne (h : ∀ fs, d ≠ .record fs) : standsFor d name = some d := by
  cases d with
  | record fs => exact absurd rfl (h fs)
  | _ => rfl

/-- Only a stray datum is at fault. -/
theorem sectionFaults_eq (d : Datum) (name : String) :
    sectionFaults d name = ((stray? d name).map SettingsError.notASection).toList := by
  unfold sectionFaults stray?
  split
  · next fs =>
    dsimp only [standsFor]
    split
    · next hnone =>
      rw [hnone]
      rfl
    · next gs hrecord =>
      rw [hrecord]
      rfl
    · next g hne hsome => rw [hsome, faults_of_stray hne]
  · next hne => rw [standsFor_of_ne hne, faults_of_stray hne]

/-- A stray document stands for each of its sections. -/
theorem isStray_eq_false (h : stray? d name = none) : d.isStray = false := by
  cases hd : d.isStray with
  | false => rfl
  | true =>
    have hne : ∀ fs, d ≠ .record fs := by
      rintro fs rfl
      exact nomatch hd
    rw [stray?, standsFor_of_ne hne, Option.filter_some, if_pos hd] at h
    exact nomatch h

/-- Where a level is found, no stray datum stands for its section. -/
theorem stray?_of_levelFault? {fault : LiteralFault} (h : levelFault? d = some fault) :
    stray? d "logging" = none := by
  have hempty (hsection : sectionOf d "logging" = []) : levelFault? d = none := by
    rw [levelFault?, levelText, hsection]
    rfl
  cases d with
  | record fs =>
    rw [stray?, standsFor]
    rcases hlookup : fs.lookup "logging" with _ | g
    · rfl
    · cases g with
      | record gs => rfl
      | _ =>
        rw [hempty (by rw [sectionOf, hlookup])] at h
        cases h
  | _ =>
    rw [hempty rfl] at h
    cases h

/-! ## Loading -/

def loaded (d : Datum) : Datum := if d.truthy then d else .record []

theorem load_of_chosen {files : Path → PathState Document} {search : List Path} {explicit : Option Path}
    {p : Path} (hchosen : choose files search explicit = .ok (some p)) (hfile : files p = .file (.parsed d)) :
    (load files search explicit).2 = .ok (loaded d) := by
  rw [load, hchosen]
  simp only [hfile, document, loaded]

theorem loaded_isRecord_iff : (∃ fs, loaded d = .record fs) ↔ d.isStray = false := by
  unfold loaded
  cases d with
  | record fs =>
    refine iff_of_true ?_ rfl
    split
    · exact ⟨fs, rfl⟩
    · exact ⟨[], rfl⟩
  | _ =>
    dsimp only [Datum.isStray]
    split <;> simp [*]

/-! ## Reading -/

variable {e : SettingsError}

theorem switches_eq_error_iff :
    switches (loaded d) = .error e ↔ ∃ g, stray? d "scan" = some g ∧ .notASection g = e := by
  rw [loaded, switches_eq, sectionFaults_eq, firstError_toList_eq_error, Option.map_eq_some_iff]

theorem switches_ok_iff : (∃ s, switches (loaded d) = .ok s) ↔ stray? d "scan" = none := by
  rw [loaded, switches_eq, sectionFaults_eq, firstError_toList_ok_iff, Option.map_eq_none_iff]

theorem logLevel_eq_error_iff : logLevel (loaded d) = .error e ↔
    (∃ g, stray? d "logging" = some g ∧ .notASection g = e) ∨
      ∃ fault, levelFault? d = some fault ∧ .noLiteral fault = e := by
  rw [loaded, logLevel_eq, sectionFaults_eq, firstError_eq_error, List.head?_append,
    Option.head?_toList, Option.head?_toList, Option.or_eq_some_iff, Option.map_eq_some_iff,
    Option.map_eq_none_iff, Option.map_eq_some_iff]
  refine or_congr_right (and_iff_right_of_imp ?_)
  rintro ⟨fault, hfault, -⟩
  exact stray?_of_levelFault? hfault

theorem logLevel_ok_iff : (∃ text, logLevel (loaded d) = .ok text) ↔
    stray? d "logging" = none ∧ levelFault? d = none := by
  rw [loaded, logLevel_eq, sectionFaults_eq]
  cases stray? d "logging" <;> cases levelFault? d <;> simp [firstError]

theorem backend_of_stray {g : Datum} (h : stray? d "reader" = some g) :
    backend (loaded d) = .error (.notASection g) := by
  have hbackend := backend_eq d
  rw [sectionFaults_eq, h] at hbackend
  exact map_eq_error.1 hbackend

theorem name_mem_backendNames (b : Backend) : b.name ∈ backendNames := by
  match b with
  | .auto | .fixed .listing | .fixed .directories => decide

theorem backend_of_no_stray (h : stray? d "reader" = none) : BackendDocumented (loaded d) := by
  have hbackend := backend_eq d
  rw [sectionFaults_eq, h, Option.map_none, Option.toList_none, List.nil_append, backendFaults] at hbackend
  cases hgiven : Backend.ofDatum? (configuredBackend d) with
  | none =>
    rw [hgiven] at hbackend
    exact Or.inr ⟨_, map_eq_error.1 hbackend, Backend.ofDatum?_eq_none.1 hgiven⟩
  | some b =>
    rw [hgiven] at hbackend
    obtain ⟨b', hb', -⟩ := map_eq_ok.1 hbackend
    exact Or.inl ⟨b', hb', name_mem_backendNames b'⟩

theorem BackendDocumented.ne_notASection {config g : Datum} (h : BackendDocumented config) :
    backend config ≠ .error (.notASection g) := by
  intro hg
  rcases h with ⟨b, hb, -⟩ | ⟨given, hgiven, -⟩
  · exact nomatch hg.symm.trans hb
  · exact nomatch hg.symm.trans hgiven

theorem backend_eq_notASection_iff {g : Datum} :
    backend (loaded d) = .error (.notASection g) ↔ stray? d "reader" = some g := by
  refine ⟨fun h => ?_, backend_of_stray⟩
  cases hstray : stray? d "reader" with
  | none => exact absurd h (backend_of_no_stray hstray).ne_notASection
  | some g' =>
    have hsame := (backend_of_stray hstray).symm.trans h
    rw [SettingsError.notASection.inj (Except.error.inj hsame)]

theorem forall_sectionNames {P : String → Prop} :
    (∀ name ∈ sectionNames, P name) ↔ P "reader" ∧ P "scan" ∧ P "logging" := by
  simp [sectionNames]

theorem documented_iff : Documented (loaded d) ↔
    (∀ name ∈ sectionNames, stray? d name = none) ∧ levelFault? d = none := by
  rw [forall_sectionNames]
  constructor
  · intro h
    obtain ⟨hlogging, hlevel⟩ := logLevel_ok_iff.1 h.logLevel
    refine ⟨⟨?_, switches_ok_iff.1 h.switches, hlogging⟩, hlevel⟩
    cases hstray : stray? d "reader" with
    | none => rfl
    | some g => exact absurd (backend_of_stray hstray) h.backend.ne_notASection
  · rintro ⟨⟨hreader, hscan, hlogging⟩, hlevel⟩
    exact ⟨loaded_isRecord_iff.2 (isStray_eq_false hscan), backend_of_no_stray hreader,
      switches_ok_iff.2 hscan, logLevel_ok_iff.2 ⟨hlogging, hlevel⟩⟩

/-- A document that is chosen is loaded whatever it is, and gives what is documented of settings exactly if
no stray datum stands for any of its sections and its log level can be written as text. A reading fails if
a stray datum stands for its own section, and the error names it; apart from that only a backend that is
none of the three is an error, and a log level with a number that cannot be written. -/
theorem settings_documented_iff {files : Path → PathState Document} {search : List Path}
    {explicit : Option Path} {p : Path} {d : Datum}
    (hchosen : choose files search explicit = .ok (some p)) (hfile : files p = .file (.parsed d)) :
    ∃ config, (load files search explicit).2 = .ok config ∧
      (Documented config ↔
        (∀ name ∈ sectionNames, stray? d name = none) ∧ levelFault? d = none) ∧
      ((∃ fs, config = .record fs) ↔ d.isStray = false) ∧
      (stray? d "reader" = none → BackendDocumented config) ∧
      (∀ g, backend config = .error (.notASection g) ↔ stray? d "reader" = some g) ∧
      (∀ e, switches config = .error e ↔ ∃ g, stray? d "scan" = some g ∧ .notASection g = e) ∧
      ∀ e, logLevel config = .error e ↔
        (∃ g, stray? d "logging" = some g ∧ .notASection g = e) ∨
          ∃ fault, levelFault? d = some fault ∧ .noLiteral fault = e :=
  ⟨loaded d, load_of_chosen hchosen hfile, documented_iff, loaded_isRecord_iff, backend_of_no_stray,
    fun _ => backend_eq_notASection_iff, fun _ => switches_eq_error_iff,
    fun _ => logLevel_eq_error_iff⟩

def settingsPath : Path := ⟨.none, ["exif_view.yaml"]⟩

/-- Settings in which the name of a backend stands for the section that has it. -/
def flatSettings : Datum := .record [("reader", .text "pillow"), ("logging", .none)]

theorem settings_documented_iff_flatSettings :
    choose (fun _ => .file (.parsed flatSettings)) [settingsPath] none = .ok (some settingsPath) ∧
      ∃ config, (load (fun _ => .file (.parsed flatSettings)) [settingsPath] none).2 = .ok config ∧
        ¬ Documented config ∧ (∃ fs, config = .record fs) ∧
        backend config = .error (.notASection (.text "pillow")) := by
  have hchosen : choose (fun _ => .file (.parsed flatSettings)) [settingsPath] none =
      .ok (some settingsPath) := rfl
  have hstray : stray? flatSettings "reader" = some (.text "pillow") := rfl
  obtain ⟨config, hload, hdocumented, hrecord, -, hbackend, -⟩ := settings_documented_iff hchosen rfl
  refine ⟨hchosen, config, hload, fun h => ?_, hrecord.2 rfl, (hbackend _).2 hstray⟩
  exact nomatch hstray.symm.trans ((hdocumented.1 h).1 "reader" (by decide))

/-- A document that is a word is loaded as it is, and the level of logging cannot be read from it. -/
theorem undocumented_word :
    (load (fun _ => .file (.parsed (.text "pillow"))) [settingsPath] none).2 = .ok (.text "pillow") ∧
      (∀ fs, Datum.text "pillow" ≠ .record fs) ∧
      logLevel (.text "pillow") = .error (.notASection (.text "pillow")) := by
  refine ⟨rfl, ?_, rfl⟩
  intro fs h
  exact nomatch h

end Settings

end Exif
