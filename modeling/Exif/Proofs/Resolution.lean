import Exif.Proofs.Settings
import Exif.Scan

/-! What a scan takes from settings. Once nothing is wrong with them, a scan is the one whose request
has all that was left open filled in from the document, and what was not left open is never looked up.
Errors come in the order directory, settings, pictures. -/

namespace Exif

def ScanRequest.filled (r : ScanRequest) (d : Datum) : ScanRequest where
  directory := r.directory
  recursive := some (r.recursive.getD (Settings.configuredSwitch d "recursive"))
  includeHidden := some (r.includeHidden.getD (Settings.configuredSwitch d "include_hidden"))
  backend := some (r.backend.getD (Settings.configuredBackend d))

/-- Two documents have the same for each setting that a request leaves open. -/
structure ScanRequest.Agree (r : ScanRequest) (d d' : Datum) : Prop where
  recursive : r.recursive = none →
    Settings.configuredSwitch d' "recursive" = Settings.configuredSwitch d "recursive"
  includeHidden : r.includeHidden = none →
    Settings.configuredSwitch d' "include_hidden" = Settings.configuredSwitch d "include_hidden"
  backend : r.backend = none → Settings.configuredBackend d' = Settings.configuredBackend d

namespace Scan

def filledChoices (r : ScanRequest) (d : Datum) : Choices :=
  ⟨⟨r.recursive.getD (Settings.configuredSwitch d "recursive"),
    r.includeHidden.getD (Settings.configuredSwitch d "include_hidden")⟩,
    r.backend.getD (Settings.configuredBackend d)⟩

def documentFaults (r : ScanRequest) (d : Datum) : List SettingsError :=
  Settings.sectionFaults d "scan" ++
    match r.backend with
    | some _ => []
    | none => Settings.sectionFaults d "reader" ++ Settings.backendFaults d

/-- What is wrong with a source of settings; nothing if none are needed. -/
def settingsFaults (r : ScanRequest) (s : Option (Path × PathState Document)) : List SettingsError :=
  if (explicit? r).isSome then []
  else Settings.sourceFaults s ++ documentFaults r (Settings.sourceDocument s)

def settingsLog (r : ScanRequest) (s : Option (Path × PathState Document)) : List LogLine :=
  if (explicit? r).isSome then [] else Settings.sourceLog s

/-! ## Choices -/

theorem complete_eq (r : ScanRequest) (d : Datum) :
    complete r (if d.truthy then d else .record []) =
      firstError (documentFaults r d) (filledChoices r d) := by
  rw [complete, Settings.switches_eq, documentFaults]
  refine firstError_bind ?_
  unfold filledChoices
  cases r.backend with
  | some b => rfl
  | none =>
    change (((fun b => Datum.text b.name) <$> Settings.backend _) >>= fun backend => _) = _
    rw [Settings.backend_eq]
    dsimp only
    cases Settings.sectionFaults d "reader" ++ Settings.backendFaults d <;> rfl

theorem filledChoices_of_explicit {r : ScanRequest} {c : Choices} (h : explicit? r = some c)
    (d : Datum) : filledChoices r d = c := by
  obtain ⟨dir, recursive, includeHidden, backend⟩ := r
  match recursive, includeHidden, backend with
  | some _, some _, some _ => exact Option.some.inj h

theorem choices_eq (files : Path → PathState Document) (search : List Path) (r : ScanRequest) :
    choices files search r =
      let s := Settings.source files search
      (settingsLog r s,
        firstError (settingsFaults r s) (filledChoices r (Settings.sourceDocument s))) := by
  unfold choices settingsLog settingsFaults
  cases h : explicit? r with
  | some c => simp [filledChoices_of_explicit h, firstError]
  | none =>
    simp only [Option.isSome_none, Bool.false_eq_true, if_false, Settings.load_eq]
    exact congrArg _ (firstError_bind (complete_eq r _))

theorem choices_filled (files : Path → PathState Document) (search : List Path) (r : ScanRequest)
    (d : Datum) : choices files search (r.filled d) = ([], .ok (filledChoices r d)) := rfl

theorem channel_settingsLog {r : ScanRequest} {s : Option (Path × PathState Document)} {line : LogLine}
    (h : line ∈ settingsLog r s) : line.channel = .settings := by
  unfold settingsLog at h
  split at h
  · exact absurd h List.not_mem_nil
  · match s with
    | none | some (_, .refused _) => exact absurd h List.not_mem_nil
    | some (p, .missing) | some (p, .directory) | some (p, .file _) =>
      rw [List.mem_singleton.1 h]
      rfl

/-! ## Pictures -/

theorem entry_ne_settings {backend : Datum} {f : Path × Image} {e : SettingsError} :
    entry backend f ≠ .error (.settings e) := by
  unfold entry
  intro h
  split at h
  · exact nomatch h
  · exact nomatch h
  · split at h <;> exact nomatch h

theorem channel_add {s : Progress} {backend : Datum} {f : Path × Image} {e : Entry}
    (he : entry backend f = .ok e) (h : ∀ line ∈ s.log, line.channel = .scan) :
    ∀ line ∈ (s.add e).log, line.channel = .scan := by
  unfold entry at he
  split at he
  · obtain rfl := Except.ok.inj he
    intro line hline
    rcases List.mem_append.1 hline with hline | hline
    · exact h line hline
    · rw [List.mem_singleton.1 hline]
      rfl
  · exact nomatch he
  · split at he
    · obtain rfl := Except.ok.inj he
      exact h
    · exact nomatch he

/-- Going through files never ends with an error about settings, and logs nothing about them. -/
theorem entries_channel (backend : Datum) (files : List (Path × Image)) {s : Progress}
    (h : ∀ line ∈ s.log, line.channel = .scan) :
    (∀ e, (entries backend files s).2 ≠ some (.settings e)) ∧
      ∀ line ∈ (entries backend files s).1.log, line.channel = .scan := by
  induction files generalizing s with
  | nil => exact ⟨fun e => (nomatch ·), h⟩
  | cons f files ih =>
    rw [entries]
    split
    · next e he => exact ih (channel_add he h)
    · next e he =>
      refine ⟨fun e' he' => ?_, h⟩
      rw [Option.some.inj he'] at he
      exact entry_ne_settings he

theorem summarize_channel (host : Host) (tree : FileTree Image) (dir : Path) (c : Choices) :
    (∀ e, (summarize host tree dir c).2 ≠ .error (.settings e)) ∧
      ∀ line ∈ (summarize host tree dir c).1, line.channel = .scan := by
  unfold summarize
  split
  · exact ⟨fun e => (nomatch ·), fun line hline => absurd hline List.not_mem_nil⟩
  · next found _ =>
    have hempty : ∀ line ∈ (Progress.mk [] []).log, line.channel = .scan :=
      fun line hline => absurd hline List.not_mem_nil
    have hchannel := entries_channel c.backend found hempty
    split
    · next s e hs =>
      rw [hs] at hchannel
      exact ⟨fun e' he' => hchannel.1 e' (congrArg some (Except.error.inj he')), hchannel.2⟩
    · next s hs =>
      rw [hs] at hchannel
      refine ⟨fun e => (nomatch ·), fun line hline => ?_⟩
      rcases List.mem_append.1 hline with hline | hline
      · exact hchannel.2 line hline
      · rw [List.mem_singleton.1 hline]
        rfl

end Scan

/-! ## Scans -/

section

variable {host : Host} {tree : FileTree Image} {r : ScanRequest} {files : Path → PathState Document}
  {search : List Path}

/-- A directory that is none gives the same error whatever else is asked for. -/
theorem scanDirectory_of_no_directory (h : tree.state r.directory ≠ .directory) :
    ∃ e, (∀ s, e ≠ .settings s) ∧ ∀ r' : ScanRequest, r'.directory = r.directory →
      ∀ files search, scanDirectory host tree files search r' = ([], .error e) := by
  unfold scanDirectory
  cases hstate : tree.state r.directory with
  | directory => exact absurd hstate h
  | missing =>
    refine ⟨.directoryNotFound r.directory, fun s => (nomatch ·), fun r' hr' _ _ => ?_⟩
    simp only [hr', hstate]
  | file i =>
    refine ⟨.notADirectory r.directory, fun s => (nomatch ·), fun r' hr' _ _ => ?_⟩
    simp only [hr', hstate]
  | refused e =>
    refine ⟨.path e, fun s => (nomatch ·), fun r' hr' _ _ => ?_⟩
    simp only [hr', hstate]

theorem scanDirectory_of_faults (hdir : tree.state r.directory = .directory) {e : SettingsError}
    {es : List SettingsError} (h : Scan.settingsFaults r (Settings.source files search) = e :: es) :
    scanDirectory host tree files search r =
      (Scan.settingsLog r (Settings.source files search), .error (.settings e)) := by
  simp only [scanDirectory, hdir, Scan.choices_eq, h, firstError]

theorem scanDirectory_of_no_faults (hdir : tree.state r.directory = .directory)
    (h : Scan.settingsFaults r (Settings.source files search) = []) :
    scanDirectory host tree files search r =
      (Scan.settingsLog r (Settings.source files search) ++ (Scan.summarize host tree r.directory
          (Scan.filledChoices r (Settings.sourceDocument (Settings.source files search)))).1,
        (Scan.summarize host tree r.directory
          (Scan.filledChoices r (Settings.sourceDocument (Settings.source files search)))).2) := by
  simp only [scanDirectory, hdir, Scan.choices_eq, h, firstError]

/-- A scan ends with an error about settings if the directory is one and something is wrong with them;
the first thing that is wrong is told. -/
theorem scanDirectory_eq_settings {e : SettingsError} :
    (scanDirectory host tree files search r).2 = .error (.settings e) ↔
      tree.state r.directory = .directory ∧
        (Scan.settingsFaults r (Settings.source files search)).head? = some e := by
  by_cases hdir : tree.state r.directory = .directory
  · cases hf : Scan.settingsFaults r (Settings.source files search) with
    | nil =>
      rw [scanDirectory_of_no_faults hdir hf]
      exact iff_of_false ((Scan.summarize_channel ..).1 e) (fun h => nomatch h.2)
    | cons e' es =>
      rw [scanDirectory_of_faults hdir hf]
      simp [hdir]
  · obtain ⟨e', he', hscan⟩ := scanDirectory_of_no_directory hdir
    rw [hscan r rfl]
    exact iff_of_false (fun h => he' e (Except.error.inj h)) (fun h => hdir h.1)

theorem no_faults_of_ne_settings (hdir : tree.state r.directory = .directory)
    (h : ∀ e, (scanDirectory host tree files search r).2 ≠ .error (.settings e)) :
    Scan.settingsFaults r (Settings.source files search) = [] := by
  cases hf : Scan.settingsFaults r (Settings.source files search) with
  | nil => rfl
  | cons e es => exact absurd (scanDirectory_eq_settings.2 ⟨hdir, by rw [hf]; rfl⟩) (h e)

theorem summarize_of_filled (hdir : tree.state r.directory = .directory) (d : Datum)
    (files : Path → PathState Document) (search : List Path) :
    scanDirectory host tree files search (r.filled d) =
      Scan.summarize host tree r.directory (Scan.filledChoices r d) := by
  have hdirectory : tree.state (r.filled d).directory = .directory := hdir
  rw [scanDirectory, hdirectory, Scan.choices_filled]
  rfl

/-- Where settings are in order, the scan is that of the filled request, and besides logs only what
concerns the settings. -/
theorem scanDirectory_filled
    (h : ∀ e, (scanDirectory host tree files search r).2 ≠ .error (.settings e))
    (files' : Path → PathState Document) (search' : List Path) :
    scanDirectory host tree files' search'
        (r.filled (Settings.sourceDocument (Settings.source files search))) =
      ((scanDirectory host tree files search r).1.filter (·.channel ≠ .settings),
        (scanDirectory host tree files search r).2) := by
  by_cases hdir : tree.state r.directory = .directory
  · rw [summarize_of_filled hdir,
      scanDirectory_of_no_faults hdir (no_faults_of_ne_settings hdir h), List.filter_append,
      List.filter_eq_nil_iff.2, List.filter_eq_self.2, List.nil_append]
    · intro line hline
      simp [(Scan.summarize_channel ..).2 line hline]
    · intro line hline
      simp [Scan.channel_settingsLog hline]
  · obtain ⟨e, -, hscan⟩ := scanDirectory_of_no_directory hdir
    rw [hscan r rfl, hscan (r.filled _) rfl]
    rfl

/-! ## What does not count -/

theorem scanDirectory_congr_source {files' : Path → PathState Document} {search' : List Path}
    (h : Settings.source files' search' = Settings.source files search) :
    scanDirectory host tree files' search' r = scanDirectory host tree files search r := by
  simp only [scanDirectory, Scan.choices_eq, h]

theorem scanDirectory_explicit (h : (Scan.explicit? r).isSome) (files' : Path → PathState Document)
    (search' : List Path) :
    scanDirectory host tree files' search' r = scanDirectory host tree files search r := by
  obtain ⟨c, hc⟩ := Option.isSome_iff_exists.1 h
  simp only [scanDirectory, Scan.choices, hc]

theorem settingsFaults_of_explicit (h : (Scan.explicit? r).isSome)
    (s : Option (Path × PathState Document)) : Scan.settingsFaults r s = [] := if_pos h

theorem unknownBackend_not_mem_sectionFaults (d given : Datum) (name : String) :
    SettingsError.unknownBackend given ∉ Settings.sectionFaults d name := by
  cases d with
  | record fs =>
    dsimp only [Settings.sectionFaults]
    split
    · exact List.not_mem_nil
    · exact List.not_mem_nil
    · split <;> simp
  | _ =>
    dsimp only [Settings.sectionFaults]
    split <;> simp

/-- With a backend of its own a request never finds fault with that of the settings. -/
theorem unknownBackend_not_mem {b : Datum} (hb : r.backend = some b) (given : Datum)
    (s : Option (Path × PathState Document)) :
    SettingsError.unknownBackend given ∉ Scan.settingsFaults r s := by
  unfold Scan.settingsFaults Scan.documentFaults
  rw [hb]
  split
  · exact List.not_mem_nil
  · rw [List.append_nil, List.mem_append, not_or]
    refine ⟨?_, unknownBackend_not_mem_sectionFaults _ given _⟩
    match s with
    | none | some (_, .file (.parsed _)) => exact List.not_mem_nil
    | some (p, .missing) | some (p, .directory) | some (_, .refused _)
    | some (_, .file (.malformed _ _)) =>
      simp [Settings.sourceFaults]

/-- With a backend of its own a request needs no section but that of the switches. -/
theorem scanDirectory_congr_section {files' : Path → PathState Document} {search' : List Path}
    {b : Datum} (hb : r.backend = some b) {p : Path} {fs fs' : List (String × Datum)}
    (hs : Settings.source files search = some (p, .file (.parsed (.record fs))))
    (hs' : Settings.source files' search' = some (p, .file (.parsed (.record fs'))))
    (h : fs'.lookup "scan" = fs.lookup "scan") :
    scanDirectory host tree files' search' r = scanDirectory host tree files search r := by
  simp only [scanDirectory, Scan.choices_eq, hs, hs', Scan.settingsLog, Settings.sourceLog,
    Scan.settingsFaults, Settings.sourceFaults, Settings.sourceDocument, Scan.documentFaults,
    Settings.sectionFaults, Scan.filledChoices, Settings.configuredSwitch, Settings.sectionOf, h, hb,
    Option.getD_some]

theorem ScanRequest.Agree.filled_eq {d d' : Datum} (h : r.Agree d d') : r.filled d' = r.filled d := by
  obtain ⟨dir, recursive, includeHidden, backend⟩ := r
  obtain ⟨hrecursive, hhidden, hbackend⟩ := h
  cases recursive <;> cases includeHidden <;> cases backend <;>
    simp_all [filled]

end

/-- What a scan takes from settings, and when it fails over them. -/
theorem scanDirectory_resolves_settings (host : Host) (tree : FileTree Image)
    (files : Path → PathState Document) (search : List Path) (r : ScanRequest) :
    -- an error about the directory comes before settings are loaded
    (tree.state r.directory ≠ .directory → ∃ e, (∀ s, e ≠ .settings s) ∧
      ∀ files search, scanDirectory host tree files search r = ([], .error e)) ∧
    -- an error about settings comes before pictures are read
    (∀ e, (scanDirectory host tree files search r).2 = .error (.settings e) ↔
      tree.state r.directory = .directory ∧
        (Scan.settingsFaults r (Settings.source files search)).head? = some e) ∧
    (∀ e, (scanDirectory host tree files search r).2 = .error (.settings e) →
      (∀ line ∈ (scanDirectory host tree files search r).1, line.channel = .settings) ∧
      ∀ other : FileTree Image, other.state r.directory = .directory →
        scanDirectory host other files search r = scanDirectory host tree files search r) ∧
    -- where settings are in order, the scan is that of the request filled in from them
    ((∀ e, (scanDirectory host tree files search r).2 ≠ .error (.settings e)) → ∀ files' search',
      scanDirectory host tree files' search'
          (r.filled (Settings.sourceDocument (Settings.source files search))) =
        ((scanDirectory host tree files search r).1.filter (·.channel ≠ .settings),
          (scanDirectory host tree files search r).2)) ∧
    -- only the first path that leads anywhere counts
    (∀ files' search', Settings.source files' search' = Settings.source files search →
      scanDirectory host tree files' search' r = scanDirectory host tree files search r) ∧
    -- what a document has for a setting that is not open does not count
    (∀ files' search', (∀ e, (scanDirectory host tree files search r).2 ≠ .error (.settings e)) →
      (∀ e, (scanDirectory host tree files' search' r).2 ≠ .error (.settings e)) →
      r.Agree (Settings.sourceDocument (Settings.source files search))
        (Settings.sourceDocument (Settings.source files' search')) →
      (scanDirectory host tree files' search' r).2 = (scanDirectory host tree files search r).2) ∧
    (∀ b, r.backend = some b →
      (∀ given, (scanDirectory host tree files search r).2 ≠
        .error (.settings (.unknownBackend given))) ∧
      ∀ files' search' p fs fs', Settings.source files search = some (p, .file (.parsed (.record fs))) →
        Settings.source files' search' = some (p, .file (.parsed (.record fs'))) →
        fs'.lookup "scan" = fs.lookup "scan" →
        scanDirectory host tree files' search' r = scanDirectory host tree files search r) ∧
    -- a request that leaves nothing open needs no settings
    ((Scan.explicit? r).isSome →
      (∀ e, (scanDirectory host tree files search r).2 ≠ .error (.settings e)) ∧
      ∀ files' search', scanDirectory host tree files' search' r =
        scanDirectory host tree files search r) := by
  refine ⟨fun h => ?_, fun e => scanDirectory_eq_settings, fun e h => ?_,
    fun h files' search' => scanDirectory_filled h files' search',
    fun files' search' h => scanDirectory_congr_source h,
    fun files' search' h h' hagree => ?_,
    fun b hb => ⟨fun given h => ?_, fun files' search' p fs fs' hs hs' h =>
      scanDirectory_congr_section hb hs hs' h⟩,
    fun h => ⟨fun e he => ?_, fun files' search' => scanDirectory_explicit h files' search'⟩⟩
  · obtain ⟨e, he, hscan⟩ := scanDirectory_of_no_directory h
    exact ⟨e, he, fun files search => hscan r rfl files search⟩
  · obtain ⟨hdir, hhead⟩ := scanDirectory_eq_settings.1 h
    obtain ⟨es, hfaults⟩ := List.head?_eq_some_iff.1 hhead
    rw [scanDirectory_of_faults hdir hfaults]
    exact ⟨fun line => Scan.channel_settingsLog, fun other hother =>
      scanDirectory_of_faults hother hfaults⟩
  · have hscan := congrArg Prod.snd (scanDirectory_filled h files search)
    have hscan' := congrArg Prod.snd (scanDirectory_filled h' files search)
    rw [hagree.filled_eq] at hscan'
    exact hscan'.symm.trans hscan
  · exact unknownBackend_not_mem hb given _ (List.mem_of_head? (scanDirectory_eq_settings.1 h).2)
  · have hhead := (scanDirectory_eq_settings.1 he).2
    rw [settingsFaults_of_explicit h] at hhead
    exact nomatch hhead

def emptyDirectory : FileTree Image := ⟨⟨[(["d"], .directory)], by simp⟩⟩

/-- Settings that only ask for subdirectories, and a later document that is no record. -/
def twoDocuments (p : Path) : PathState Document :=
  if p.components = ["first.yaml"] then
    .file (.parsed (.record [("scan", .record [("recursive", .bool true)]), ("reader", .none)]))
  else if p.components = ["second.yaml"] then .file (.parsed (.list [.none]))
  else .missing

def twoPaths : List Path :=
  [⟨.none, ["absent.yaml"]⟩, ⟨.none, ["first.yaml"]⟩, ⟨.none, ["second.yaml"]⟩]

def openRequest : ScanRequest := ⟨⟨.none, ["d"]⟩, none, some false, none⟩

theorem scanDirectory_resolves_settings_twoDocuments :
    (∀ e, (scanDirectory (.dataFrames 1000) emptyDirectory twoDocuments twoPaths openRequest).2 ≠
      .error (.settings e)) ∧
      scanDirectory (.dataFrames 1000) emptyDirectory (fun _ => .missing) []
          ⟨⟨.none, ["d"]⟩, some true, some false, some (.text "auto")⟩ =
        ((scanDirectory (.dataFrames 1000) emptyDirectory twoDocuments twoPaths openRequest).1.filter
            (·.channel ≠ .settings),
          (scanDirectory (.dataFrames 1000) emptyDirectory twoDocuments twoPaths openRequest).2) := by
  obtain ⟨-, hiff, -, hfilled, -⟩ :=
    scanDirectory_resolves_settings (.dataFrames 1000) emptyDirectory twoDocuments twoPaths openRequest
  have hpast : ∀ e,
      (scanDirectory (.dataFrames 1000) emptyDirectory twoDocuments twoPaths openRequest).2 ≠
        .error (.settings e) := fun e he => nomatch ((hiff e).1 he).2
  exact ⟨hpast, hfilled hpast (fun _ => .missing) []⟩

end Exif
