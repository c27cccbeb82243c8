import Exif.Proofs.Collect
import Exif.Proofs.Double.Finite
import Exif.Proofs.Failures
import Exif.Proofs.Metadata.Faults
import Exif.Proofs.Reading
import Exif.Scan

/-! No file can end a scan by its content, with one exception. A file that gives no store is skipped with
a warning, and the summary of a store can only fail where the divisor of the average luminance rounds to
zero. A scan of pictures whose integers fit 32 bits gives a table exactly if that happens in none, provided
that the files of the directory could be collected in the first place. -/

namespace Exif

/-! ## Integers of a picture -/

def Fits32 (n : Int) : Prop := -2 ^ 31 ≤ n ∧ n < 2 ^ 32

theorem Fits32.converts {n : Int} (h : Fits32 n) : ∃ x, Double.ofInt? n = some x := by
  obtain ⟨hlow, hhigh⟩ := h
  exact ⟨_, Double.ofInt?_eq (k := 32) (by decide) (by omega)⟩

/-- Every integer that an entry of either decoder gives fits 32 bits. -/
structure Image.IntegersFit (i : Image) : Prop where
  listing : ∀ l, i.listing = .ok l → ∀ key f, (key, .field f) ∈ l →
    ∀ n, f.value? = .ok (some (.int n)) → Fits32 n
  directories : ∀ d, i.directories = .ok (some d) →
    ∀ es, es = d.image ∨ d.exif = .ok es ∨ d.thumbnail = .ok es → ∀ e ∈ es,
    ∀ n, e.2.entryValue? = .ok (some (.int n)) → Fits32 n

theorem fits32_of_collect {i : Image} (hi : i.IntegersFit) {d : Decoder} {m : Collected}
    (hm : i.collect d = .ok m) {k n : Int} (h : m.get? k = some (.int n)) : Fits32 n := by
  have hfinding := Collected.mem_findings (Image.ofFindings_of_collect hm) h
  unfold Image.findings at hfinding
  cases d with
  | listing =>
    dsimp only at hfinding
    cases hl : i.listing with
    | error e =>
      rw [hl] at hfinding
      exact nomatch hfinding
    | ok l =>
      rw [hl] at hfinding
      obtain ⟨key, f, hmem, -, hf⟩ := Listing.mem_findings hfinding
      exact hi.listing l hl key f hmem n (congrArg Prod.snd hf).symm
  | directories =>
    dsimp only at hfinding
    split at hfinding
    · next d hd =>
      obtain ⟨es, hes, e, hmem, he⟩ := Directories.mem_findings hfinding
      exact hi.directories d hd es hes e hmem n (congrArg Prod.snd he).symm
    · exact nomatch hfinding

theorem convertible_of_readTagStore {i : Image} (hi : i.IntegersFit) {b : Backend} {p : Path}
    {s : TagStore} (h : (readTagStore (.text b.name) p (.file i)).result = .ok s) : s.Convertible := by
  obtain ⟨-, hstore⟩ := store_of_readTagStore h
  obtain ⟨values, hvalues, -, rfl⟩ := Image.collect_of_store hstore
  intro tag n hn
  rw [Image.get?_storeOf] at hn
  exact (fits32_of_collect hi hvalues hn).converts

/-! ## Files -/

/-- A file gives a store, or a reason for which it gives none. -/
theorem readTagStore_result (b : Backend) (p : Path) (i : Image) :
    (∃ s, (readTagStore (.text b.name) p (.file i)).result = .ok s) ∨
      ∃ reason, (readTagStore (.text b.name) p (.file i)).result = .error (.importFailed p reason) := by
  by_cases hb : i.bytes = []
  · exact Or.inr ⟨.emptyFile, by simp [readTagStore, Backend.ofDatum?_name, hb]⟩
  · rw [readTagStore_file hb]
    cases i.store (b.decoder p) p with
    | error reason => exact Or.inr ⟨reason, rfl⟩
    | ok s => exact Or.inl ⟨s, rfl⟩

def Image.Underflows (i : Image) (b : Backend) (p : Path) : Prop :=
  ∃ s, (readTagStore (.text b.name) p (.file i)).result = .ok s ∧ s.ExposureUnderflows

namespace Scan

theorem entry_total {i : Image} (hi : i.IntegersFit) {b : Backend} {p : Path}
    (h : ¬ i.Underflows b p) : ∃ e, entry (.text b.name) (p, i) = .ok e := by
  rcases readTagStore_result b p i with ⟨s, hs⟩ | ⟨reason, hr⟩
  · have hunder : ¬ s.ExposureUnderflows := fun hu => h ⟨s, hs, hu⟩
    obtain ⟨rows, hrows, -⟩ := TagStore.summary_total (convertible_of_readTagStore hi hs) hunder
    exact ⟨_, by simp only [entry, hs, hrows]; rfl⟩
  · exact ⟨_, by simp only [entry, hr]; rfl⟩

theorem entry_of_underflows {i : Image} (hi : i.IntegersFit) {b : Backend} {p : Path}
    (h : i.Underflows b p) : entry (.text b.name) (p, i) = .error (.failure .divisionByZero) := by
  obtain ⟨s, hs, hu⟩ := h
  have hsummary := TagStore.summary_of_underflow (convertible_of_readTagStore hi hs) hu
  simp only [entry, hs, hsummary]

/-! ## Scans -/

/-- The scan goes on over files that each have an entry. -/
theorem entries_total {backend : Datum} {files : List (Path × Image)}
    (h : ∀ file ∈ files, ∃ e, entry backend file = .ok e) (s : Progress) :
    ∃ s', entries backend files s = (s', none) := by
  induction files generalizing s with
  | nil => exact ⟨s, rfl⟩
  | cons file files ih =>
    obtain ⟨e, he⟩ := h file (List.mem_cons_self ..)
    obtain ⟨s', hs'⟩ := ih (fun g hg => h g (List.mem_cons_of_mem file hg)) (s.add e)
    refine ⟨s', ?_⟩
    rw [entries, he]
    exact hs'

/-- The scan ends at the first file without an entry. -/
theorem entries_error {backend : Datum} {files : List (Path × Image)} {e : ScanError}
    (hone : ∀ file ∈ files, (∃ x, entry backend file = .ok x) ∨ entry backend file = .error e)
    (h : ∃ file ∈ files, entry backend file = .error e) (s : Progress) :
    ∃ s', entries backend files s = (s', some e) := by
  induction files generalizing s with
  | nil =>
    obtain ⟨file, hmem, -⟩ := h
    exact absurd hmem List.not_mem_nil
  | cons file files ih =>
    rw [entries]
    rcases hone file (List.mem_cons_self ..) with ⟨x, hx⟩ | he
    · -- the file without an entry is still to come
      rw [hx]
      refine ih (fun g hg => hone g (List.mem_cons_of_mem file hg)) ?_ (s.add x)
      obtain ⟨g, hg, hge⟩ := h
      rcases List.mem_cons.1 hg with rfl | hg
      · rw [hx] at hge
        exact nomatch hge
      · exact ⟨g, hg, hge⟩
    · rw [he]
      exact ⟨s, rfl⟩

end Scan

def ScanRequest.explicit (dir : Path) (sel : Selection) (b : Backend) : ScanRequest :=
  ⟨dir, some sel.recursive, some sel.includeHidden, some (.text b.name)⟩

section

variable {host : Host} {tree : FileTree Image} {dir : Path} {sel : Selection} {b : Backend}
  {wanted : List (Path × Image)}

/-- What ends the walk through a directory ends the scan. -/
theorem scanDirectory_of_walk (files : Path → PathState Document) (search : List Path)
    (hdir : tree.state dir = .directory) {e : WalkError}
    (he : tree.collectIn host.nesting dir sel = .error e) :
    (scanDirectory host tree files search (.explicit dir sel b)).2 = .error (.walk e) := by
  simp only [scanDirectory, ScanRequest.explicit, hdir, Scan.choices, Scan.explicit?, Scan.summarize, he]

theorem scanDirectory_of_entries (files : Path → PathState Document) (search : List Path)
    (hdir : tree.state dir = .directory)
    (hwanted : tree.collectIn host.nesting dir sel = .ok wanted) :
    (scanDirectory host tree files search (.explicit dir sel b)).2 =
      match Scan.entries (.text b.name) wanted ⟨[], []⟩ with
      | (_, some e) => .error e
      | (s, none) => .ok (Table.ofRows host.display Scan.columns s.rows) := by
  simp only [scanDirectory, ScanRequest.explicit, hdir, Scan.choices, Scan.explicit?, Scan.summarize,
    hwanted]
  rcases Scan.entries (.text b.name) wanted ⟨[], []⟩ with ⟨s, e⟩
  cases e <;> rfl

theorem scan_total (files : Path → PathState Document) (search : List Path)
    (hdir : tree.state dir = .directory)
    (hwanted : tree.collectIn host.nesting dir sel = .ok wanted)
    (hfit : ∀ file ∈ wanted, file.2.IntegersFit)
    (h : ∀ file ∈ wanted, ¬ file.2.Underflows b file.1) :
    ∃ table, (scanDirectory host tree files search (.explicit dir sel b)).2 = .ok table := by
  have hentry : ∀ file ∈ wanted, ∃ e, Scan.entry (.text b.name) file = .ok e :=
    fun file hf => Scan.entry_total (hfit file hf) (h file hf)
  obtain ⟨s, hs⟩ := Scan.entries_total hentry ⟨[], []⟩
  exact ⟨_, by rw [scanDirectory_of_entries files search hdir hwanted, hs]⟩

theorem scan_aborts (files : Path → PathState Document) (search : List Path)
    (hdir : tree.state dir = .directory)
    (hwanted : tree.collectIn host.nesting dir sel = .ok wanted)
    (hfit : ∀ file ∈ wanted, file.2.IntegersFit)
    (h : ∃ file ∈ wanted, file.2.Underflows b file.1) :
    (scanDirectory host tree files search (.explicit dir sel b)).2 =
      .error (.failure .divisionByZero) := by
  have hone : ∀ file ∈ wanted, (∃ e, Scan.entry (.text b.name) file = .ok e) ∨
      Scan.entry (.text b.name) file = .error (.failure .divisionByZero) := by
    intro file hf
    by_cases hu : file.2.Underflows b file.1
    · exact Or.inr (Scan.entry_of_underflows (hfit file hf) hu)
    · exact Or.inl (Scan.entry_total (hfit file hf) hu)
  obtain ⟨file, hf, hu⟩ := h
  obtain ⟨s, hs⟩ := Scan.entries_error hone
    ⟨file, hf, Scan.entry_of_underflows (hfit file hf) hu⟩ ⟨[], []⟩
  rw [scanDirectory_of_entries files search hdir hwanted, hs]

/-- The ways in which a scan of pictures whose integers fit 32 bits ends. -/
theorem scan_cases (host : Host) (files : Path → PathState Document) (search : List Path)
    (sel : Selection) (b : Backend) (hdir : tree.state dir = .directory)
    (hfit : ∀ place i, (place, .file i) ∈ tree.nodes.entries → i.IntegersFit) :
    (∃ e, tree.collectIn host.nesting dir sel = .error e ∧
      (scanDirectory host tree files search (.explicit dir sel b)).2 = .error (.walk e)) ∨
    (∃ wanted, tree.collectIn host.nesting dir sel = .ok wanted ∧
      (∀ file ∈ wanted, ¬ file.2.Underflows b file.1) ∧
      ∃ table, (scanDirectory host tree files search (.explicit dir sel b)).2 = .ok table) ∨
    ∃ wanted, tree.collectIn host.nesting dir sel = .ok wanted ∧
      (∃ file ∈ wanted, file.2.Underflows b file.1) ∧
      (scanDirectory host tree files search (.explicit dir sel b)).2 =
        .error (.failure .divisionByZero) := by
  cases hcollect : tree.collectIn host.nesting dir sel with
  | error e => exact Or.inl ⟨e, rfl, scanDirectory_of_walk files search hdir hcollect⟩
  | ok wanted =>
    have hfit' : ∀ file ∈ wanted, file.2.IntegersFit := by
      intro file hf
      obtain ⟨place, hplace⟩ := FileTree.mem_entries_of_collectIn hdir hcollect hf
      exact hfit place file.2 hplace
    by_cases hunder : ∃ file ∈ wanted, file.2.Underflows b file.1
    · exact Or.inr (Or.inr ⟨wanted, rfl, hunder,
        scan_aborts files search hdir hcollect hfit' hunder⟩)
    · have hnone : ∀ file ∈ wanted, ¬ file.2.Underflows b file.1 :=
        fun file hf hu => hunder ⟨file, hf, hu⟩
      exact Or.inr (Or.inl ⟨wanted, rfl, hnone, scan_total files search hdir hcollect hfit' hnone⟩)

end

/-- In the store of a file all quantities are given or unavailable, and so the summary lists them
all, exactly if the exposure does not round to zero. -/
theorem quantities_of_readTagStore {i : Image} (hi : i.IntegersFit) {b : Backend} {p : Path}
    {s : TagStore} (h : (readTagStore (.text b.name) p (.file i)).result = .ok s) :
    ((∀ q, OnlyUnavailable (s.value q)) ↔ ¬ s.ExposureUnderflows) ∧
      ((∃ rows, s.summary = .ok rows ∧ rows.map Prod.fst = Quantity.all) ↔
        ¬ s.ExposureUnderflows) := by
  have hs := convertible_of_readTagStore hi h
  refine ⟨⟨fun hall hu => ?_, fun hn q => TagStore.value_fails hs fun _ => hn⟩,
    ⟨fun ⟨rows, hrows, _⟩ hu => ?_, TagStore.summary_total hs⟩⟩
  · obtain ⟨why, hwhy⟩ := hall .averageLuminance _ (TagStore.value_of_underflow hu)
    exact nomatch hwhy
  · rw [TagStore.summary_of_underflow hs hu] at hrows
    exact nomatch hrows

/-- A scan of pictures whose integers fit 32 bits gives a table exactly if the wanted pictures can be
collected and the exposure of none of them rounds to zero; if one does, the scan ends with a division by
zero, and if they cannot be collected, with what ended the walk: a path that the system refuses or
directories too deep in one another. Every single file gives a store or the reason why it gives none, and
what holds of its quantities decides what it does to a scan. -/
theorem scan_completes_iff (host : Host) (tree : FileTree Image) (files : Path → PathState Document)
    (search : List Path) (dir : Path) (sel : Selection) (b : Backend)
    (hdir : tree.state dir = .directory)
    (hfit : ∀ place i, (place, .file i) ∈ tree.nodes.entries → i.IntegersFit) :
    ((∃ table, (scanDirectory host tree files search (.explicit dir sel b)).2 = .ok table) ↔
      ∃ wanted, tree.collectIn host.nesting dir sel = .ok wanted ∧
        ∀ file ∈ wanted, ¬ file.2.Underflows b file.1) ∧
    ((scanDirectory host tree files search (.explicit dir sel b)).2 =
        .error (.failure .divisionByZero) ↔
      ∃ wanted, tree.collectIn host.nesting dir sel = .ok wanted ∧
        ∃ file ∈ wanted, file.2.Underflows b file.1) ∧
    (∀ e, (scanDirectory host tree files search (.explicit dir sel b)).2 = .error (.walk e) ↔
      tree.collectIn host.nesting dir sel = .error e) ∧
    ((∃ wanted, tree.collectIn host.nesting dir sel = .ok wanted) ↔
      ∀ path node, (path, node) ∈ tree.met (FileTree.lexicalPlace dir) sel →
        (∀ cause, tree.state (dir.below path) ≠ .refused cause) ∧
          (sel.recursive = true → node = .directory → path.length ≤ host.nesting)) ∧
    ∀ (i : Image) (p : Path), i.IntegersFit →
      ((∃ s, (readTagStore (.text b.name) p (.file i)).result = .ok s) ∨
        ∃ reason, (readTagStore (.text b.name) p (.file i)).result = .error (.importFailed p reason)) ∧
      ∀ s, (readTagStore (.text b.name) p (.file i)).result = .ok s →
        ((∀ q, OnlyUnavailable (s.value q)) ↔ ¬ s.ExposureUnderflows) ∧
        ((∃ rows, s.summary = .ok rows ∧ rows.map Prod.fst = Quantity.all) ↔
          ¬ s.ExposureUnderflows) := by
  have hpassable : _ ↔ tree.Passable host.nesting dir sel := (FileTree.passable_iff hdir).symm
  have hfiles := fun (i : Image) (p : Path) (hi : i.IntegersFit) =>
    And.intro (readTagStore_result b p i) fun s
      (hs : (readTagStore (.text b.name) p (.file i)).result = .ok s) => quantities_of_readTagStore hi hs
  rcases scan_cases host files search sel b hdir hfit with
    ⟨e, hcollect, hresult⟩ | ⟨wanted, hcollect, hnone, table, hresult⟩ |
    ⟨wanted, hcollect, hsome, hresult⟩
  · refine ⟨?_, ?_, ?_, hpassable, hfiles⟩ <;> simp [hcollect, hresult]
  · refine ⟨?_, ?_, by simp [hcollect, hresult], hpassable, hfiles⟩ <;>
      simpa [hcollect, hresult] using hnone
  · refine ⟨?_, ?_, by simp [hcollect, hresult], hpassable, hfiles⟩ <;>
      simpa [hcollect, hresult] using hsome

def onePicture (i : Image) : FileTree Image :=
  ⟨⟨[(["d"], .directory), (["d", "a.jpg"], .file i)], by simp⟩⟩

theorem collectIn_onePicture (i : Image) (nesting : Nat) :
    (onePicture i).collectIn nesting ⟨.none, ["d"]⟩ ⟨false, false⟩ =
      .ok [(⟨.none, ["d", "a.jpg"]⟩, i)] := by
  have hmet : (onePicture i).met ["d"] ⟨false, false⟩ = [(["a.jpg"], .file i)] := rfl
  have hcollect : (onePicture i).collect ["d"] ⟨false, false⟩ = [(["a.jpg"], i)] := by
    rw [FileTree.collect, hmet]
    exact List.mergeSort_singleton _
  have hpassable : (onePicture i).Passable nesting ⟨.none, ["d"]⟩ ⟨false, false⟩ :=
    FileTree.passable_iff_findSome?.2 rfl
  refine (FileTree.collectIn_eq_ok rfl).2 ⟨hpassable, ?_⟩
  change _ = ((onePicture i).collect ["d"] ⟨false, false⟩).map _
  rw [hcollect]
  rfl

theorem integersFit_onePicture {i : Image} (h : i.IntegersFit) :
    ∀ place j, (place, .file j) ∈ (onePicture i).nodes.entries → j.IntegersFit := by
  intro place j hj
  simp only [onePicture, List.mem_cons, Prod.mk.injEq, Node.file.injEq, reduceCtorEq, and_false,
    List.not_mem_nil, or_false, false_or] at hj
  rw [hj.2]
  exact h

def Image.ofEntries (es : List DirectoryEntry) : Image :=
  ⟨[0xFF, 0xD8, 0xFF, 0xD9], .ok [], .ok (some ⟨es, .ok [], .ok []⟩)⟩

theorem integersFit_ofEntries {es : List DirectoryEntry}
    (h : ∀ e ∈ es, ∀ n, e.2.entryValue? = .ok (some (.int n)) → Fits32 n) :
    (Image.ofEntries es).IntegersFit := by
  constructor
  · intro l hl key f hf
    obtain rfl := Except.ok.inj hl
    exact absurd hf List.not_mem_nil
  · intro d hd es' hes' e he
    obtain rfl := Option.some.inj (Except.ok.inj hd)
    rcases hes' with rfl | hes' | hes'
    · exact h e he
    · obtain rfl := Except.ok.inj hes'
      exact absurd he List.not_mem_nil
    · obtain rfl := Except.ok.inj hes'
      exact absurd he List.not_mem_nil

def dimExposure : Image :=
  .ofEntries [(0x829A, .double Double.least), (0x829D, .double 2), (0x8827, .double 0.5)]

theorem dimExposure_integersFit : dimExposure.IntegersFit := by
  apply integersFit_ofEntries
  intro e he n hn
  simp only [List.mem_cons, List.not_mem_nil, or_false] at he
  rcases he with rfl | rfl | rfl <;> exact nomatch hn

theorem dimExposure_underflows :
    dimExposure.Underflows (.fixed .directories) ⟨.none, ["d", "a.jpg"]⟩ :=
  ⟨_, rfl, 2, Double.least, 0.5, rfl, by decide, by decide, by decide⟩

/-- A single picture can end the scan of its directory. -/
theorem scan_aborts_dimExposure :
    (onePicture dimExposure).state ⟨.none, ["d"]⟩ = .directory ∧ dimExposure.IntegersFit ∧
      (scanDirectory (.dataFrames 1000) (onePicture dimExposure) (fun _ => .missing) []
        (.explicit ⟨.none, ["d"]⟩ ⟨false, false⟩ (.fixed .directories))).2 =
        .error (.failure .divisionByZero) := by
  refine ⟨rfl, dimExposure_integersFit, scan_aborts _ _ rfl (collectIn_onePicture _ _) ?_ ?_⟩
  · intro file hf
    rw [List.mem_singleton.1 hf]
    exact dimExposure_integersFit
  · exact ⟨_, List.mem_singleton_self _, dimExposure_underflows⟩

def plainPicture : Image := .ofEntries [(0x010F, .text "Maker")]

theorem plainPicture_integersFit : plainPicture.IntegersFit := by
  apply integersFit_ofEntries
  intro e he n hn
  rw [List.mem_singleton.1 he] at hn
  exact nomatch hn

theorem plainPicture_not_underflows (p : Path) :
    ¬ plainPicture.Underflows (.fixed .directories) p := by
  rintro ⟨s, hs, f, t, speed, hparts, -⟩
  obtain rfl := Except.ok.inj hs
  exact nomatch hparts

theorem scan_completes_iff_plain :
    (onePicture plainPicture).state ⟨.none, ["d"]⟩ = .directory ∧
      (∀ place i, (place, .file i) ∈ (onePicture plainPicture).nodes.entries → i.IntegersFit) ∧
      ∃ table, (scanDirectory (.dataFrames 1000) (onePicture plainPicture) (fun _ => .missing) []
        (.explicit ⟨.none, ["d"]⟩ ⟨false, false⟩ (.fixed .directories))).2 = .ok table := by
  have hfit := integersFit_onePicture plainPicture_integersFit
  obtain ⟨hiff, -⟩ := scan_completes_iff (.dataFrames 1000) (onePicture plainPicture)
    (fun _ => .missing) [] ⟨.none, ["d"]⟩ ⟨false, false⟩ (.fixed .directories) rfl hfit
  refine ⟨rfl, hfit, hiff.2 ⟨_, collectIn_onePicture _ _, ?_⟩⟩
  intro file hf
  rw [List.mem_singleton.1 hf]
  exact plainPicture_not_underflows _

end Exif
