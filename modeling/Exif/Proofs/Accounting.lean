import Exif.Proofs.Collect
import Exif.Proofs.Failures
import Exif.Proofs.Reading
import Exif.Proofs.Resolution
import Exif.Proofs.Table

/-! A scan accounts for its files. Each file that is found gives a store, and then a row, or it gives a
reason for which it has none, and then a warning; rows and warnings stand in the order of the files. The
cells of the rows are those of the table that is made of the stores themselves. -/

namespace Exif.Scan

def withStore? (backend : Datum) (f : Path × Image) : Option (Path × TagStore) :=
  match (readTagStore backend f.1 (.file f.2)).result with
  | .ok store => some (f.1, store)
  | .error _ => none

def withReason? (backend : Datum) (f : Path × Image) : Option (Path × ImportReason) :=
  match (readTagStore backend f.1 (.file f.2)).result with
  | .error (.importFailed _ reason) => some (f.1, reason)
  | _ => none

def opened (backend : Datum) (files : List (Path × Image)) : List (Path × TagStore) :=
  files.filterMap (withStore? backend)

def skipped (backend : Datum) (files : List (Path × Image)) : List (Path × ImportReason) :=
  files.filterMap (withReason? backend)

def IsRow (f : Path × TagStore) (row : List Cell) : Prop :=
  ∃ summary, f.2.summary = .ok summary ∧
    row = .value (.text f.1.name) :: .path f.1 :: Table.cells summary

def skipLine (f : Path × ImportReason) : LogLine :=
  .warning .scan ("Skipping " ++ f.1.text ++ ": " ++ f.2.text)

/-! ## Rows and tables -/

theorem IsRow.length_eq {f : Path × TagStore} {row : List Cell} (h : IsRow f row) :
    row.length = columns.length := by
  obtain ⟨summary, hsummary, rfl⟩ := h
  obtain ⟨-, rfl⟩ := TagStore.summary_eq_ok.1 hsummary
  simp [Table.cells, columns, Table.quantityColumns]

theorem length_of_isRow {fs : List (Path × TagStore)} {rows : List (List Cell)}
    (h : List.Forall₂ IsRow fs rows) : ∀ row ∈ rows, row.length = columns.length := by
  induction h with
  | nil => exact fun row hrow => absurd hrow List.not_mem_nil
  | cons hrow _ ih => exact List.forall_mem_cons.2 ⟨hrow.length_eq, ih⟩

/-- Rows without name and path are the rows of the summaries. -/
theorem summaryRows_of_isRow {fs : List (Path × TagStore)} {rows : List (List Cell)}
    (h : List.Forall₂ IsRow fs rows) :
    Table.summaryRows (fs.map Prod.snd) = .ok (rows.map (List.drop 2)) := by
  induction h with
  | nil => rfl
  | cons hrow _ ih =>
    obtain ⟨summary, hsummary, rfl⟩ := hrow
    rw [Table.summaryRows] at ih ⊢
    rw [List.map_cons, List.mapM_cons, ih, hsummary]
    rfl

/-! ## Files -/

variable {backend : Datum}

/-- A file that does not end the scan gives a row for its store or a warning with the reason. -/
theorem entry_eq_ok {f : Path × Image} {e : Entry} (h : entry backend f = .ok e) :
    (∃ store row, (readTagStore backend f.1 (.file f.2)).result = .ok store ∧
      IsRow (f.1, store) row ∧ e = .row row) ∨
    ∃ reason, (readTagStore backend f.1 (.file f.2)).result = .error (.importFailed f.1 reason) ∧
      e = .warning (skipLine (f.1, reason)) := by
  unfold entry at h
  split at h
  · next p reason hresult =>
    obtain rfl := path_of_importFailed hresult
    exact Or.inr ⟨reason, hresult, (Except.ok.inj h).symm⟩
  · exact nomatch h
  · next store hresult =>
    split at h
    · next summary hsummary =>
      exact Or.inl ⟨store, _, hresult, ⟨summary, hsummary, rfl⟩, (Except.ok.inj h).symm⟩
    · exact nomatch h

theorem withStore?_eq_some {f : Path × Image} {g : Path × TagStore} : withStore? backend f = some g ↔
    g.1 = f.1 ∧ (readTagStore backend f.1 (.file f.2)).result = .ok g.2 := by
  unfold withStore?
  split
  · next store hresult => grind
  · next e hresult => grind

theorem withReason?_eq_some {f : Path × Image} {g : Path × ImportReason} :
    withReason? backend f = some g ↔
      g.1 = f.1 ∧ (readTagStore backend f.1 (.file f.2)).result = .error (.importFailed f.1 g.2) := by
  unfold withReason?
  split
  · next p reason hresult =>
    obtain rfl := path_of_importFailed hresult
    grind
  · next hresult => grind

theorem opened_cons_ok {f : Path × Image} {store : TagStore} (files : List (Path × Image))
    (h : (readTagStore backend f.1 (.file f.2)).result = .ok store) :
    opened backend (f :: files) = (f.1, store) :: opened backend files ∧
      skipped backend (f :: files) = skipped backend files := by
  simp [opened, skipped, withStore?, withReason?, h]

theorem opened_cons_error {f : Path × Image} {reason : ImportReason} (files : List (Path × Image))
    (h : (readTagStore backend f.1 (.file f.2)).result = .error (.importFailed f.1 reason)) :
    opened backend (f :: files) = opened backend files ∧
      skipped backend (f :: files) = (f.1, reason) :: skipped backend files := by
  simp [opened, skipped, withStore?, withReason?, h]

/-- What a run over all files adds: the rows of those that are opened, and a warning for each of the
others. -/
theorem entries_accounts {files : List (Path × Image)} {s s' : Progress}
    (h : entries backend files s = (s', none)) :
    (∃ rows, List.Forall₂ IsRow (opened backend files) rows ∧ s'.rows = s.rows ++ rows) ∧
      s'.log = s.log ++ (skipped backend files).map skipLine ∧
      (opened backend files).length + (skipped backend files).length = files.length := by
  induction files generalizing s with
  | nil =>
    obtain ⟨rfl, -⟩ := Prod.mk.inj h
    exact ⟨⟨[], .nil, (List.append_nil _).symm⟩, (List.append_nil _).symm, rfl⟩
  | cons f files ih =>
    rw [entries] at h
    split at h
    · next e he =>
      obtain ⟨⟨rows, hrows, hadded⟩, hlog, hlength⟩ := ih h
      rcases entry_eq_ok he with ⟨store, row, hresult, hrow, rfl⟩ | ⟨reason, hresult, rfl⟩
      · obtain ⟨hopened, hskipped⟩ := opened_cons_ok files hresult
        rw [hopened, hskipped]
        refine ⟨⟨row :: rows, .cons hrow hrows, ?_⟩, hlog, ?_⟩
        · rw [hadded, Progress.add, List.append_assoc]
          rfl
        · simp only [List.length_cons]
          omega
      · obtain ⟨hopened, hskipped⟩ := opened_cons_error files hresult
        rw [hopened, hskipped]
        refine ⟨⟨rows, hrows, hadded⟩, ?_, ?_⟩
        · rw [hlog, Progress.add, List.append_assoc]
          rfl
        · simp only [List.length_cons]
          omega
    · cases (Prod.mk.inj h).2

/-! ## Distinct files -/

section

variable {files : List (Path × Image)} {f : Path × Image} (hnodup : (files.map Prod.fst).Nodup)
  (hf : f ∈ files)
include hnodup hf

theorem mem_opened {store : TagStore} : (f.1, store) ∈ opened backend files ↔
    (readTagStore backend f.1 (.file f.2)).result = .ok store := by
  rw [opened, OrderedMap.mem_filterMap hnodup (fun _ _ h => (withStore?_eq_some.1 h).1) hf,
    withStore?_eq_some, and_iff_right rfl]

theorem mem_skipped {reason : ImportReason} : (f.1, reason) ∈ skipped backend files ↔
    (readTagStore backend f.1 (.file f.2)).result = .error (.importFailed f.1 reason) := by
  rw [skipped, OrderedMap.mem_filterMap hnodup (fun _ _ h => (withReason?_eq_some.1 h).1) hf,
    withReason?_eq_some, and_iff_right rfl]

end

theorem opened_sublist (backend : Datum) (files : List (Path × Image)) :
    ((opened backend files).map Prod.fst).Sublist (files.map Prod.fst) :=
  OrderedMap.sublist_filterMap (fun _ _ h => (withStore?_eq_some.1 h).1) files

theorem skipped_sublist (backend : Datum) (files : List (Path × Image)) :
    ((skipped backend files).map Prod.fst).Sublist (files.map Prod.fst) :=
  OrderedMap.sublist_filterMap (fun _ _ h => (withReason?_eq_some.1 h).1) files

/-! ## Scans -/

theorem entry_of_entries {files : List (Path × Image)} {s s' : Progress}
    (h : entries backend files s = (s', none)) {f : Path × Image} (hf : f ∈ files) :
    ∃ e, entry backend f = .ok e := by
  induction files generalizing s with
  | nil => exact absurd hf List.not_mem_nil
  | cons g files ih =>
    rw [entries] at h
    split at h
    · next e he =>
      rcases List.mem_cons.1 hf with rfl | hf
      · exact ⟨e, he⟩
      · exact ih h hf
    · cases (Prod.mk.inj h).2

/-- A file of a scan that gives a table is opened or skipped, and not both. -/
theorem opened_or_skipped {files : List (Path × Image)} (hnodup : (files.map Prod.fst).Nodup)
    {s s' : Progress} (h : entries backend files s = (s', none)) {f : Path × Image} (hf : f ∈ files) :
    (∃ store, (readTagStore backend f.1 (.file f.2)).result = .ok store ∧
        (f.1, store) ∈ opened backend files ∧ ∀ reason, (f.1, reason) ∉ skipped backend files) ∨
      ∃ reason, (readTagStore backend f.1 (.file f.2)).result = .error (.importFailed f.1 reason) ∧
        (f.1, reason) ∈ skipped backend files ∧ ∀ store, (f.1, store) ∉ opened backend files := by
  obtain ⟨e, he⟩ := entry_of_entries h hf
  rcases entry_eq_ok he with ⟨store, -, hresult, -, -⟩ | ⟨reason, hresult, -⟩
  · refine Or.inl ⟨store, hresult, (mem_opened hnodup hf).2 hresult, fun reason hreason => ?_⟩
    have hskipped := (mem_skipped hnodup hf).1 hreason
    rw [hresult] at hskipped
    exact nomatch hskipped
  · refine Or.inr ⟨reason, hresult, (mem_skipped hnodup hf).2 hresult, fun store hstore => ?_⟩
    have hopened := (mem_opened hnodup hf).1 hstore
    rw [hresult] at hopened
    exact nomatch hopened

theorem summarize_eq_ok {host : Host} {tree : FileTree Image} {dir : Path} {c : Choices} {log : List LogLine}
    {table : Table} (h : summarize host tree dir c = (log, .ok table)) :
    ∃ found s, tree.collectIn host.nesting dir c.selection = .ok found ∧
      entries c.backend found ⟨[], []⟩ = (s, none) ∧
      log = s.log ++ [closingLine s.rows.length dir] ∧
      table = Table.ofRows host.display columns s.rows := by
  unfold summarize at h
  split at h
  · exact nomatch (Prod.mk.inj h).2
  · next found hfound =>
    split at h
    · exact nomatch (Prod.mk.inj h).2
    · next s hs =>
      obtain ⟨rfl, htable⟩ := Prod.mk.inj h
      exact ⟨found, s, hfound, hs, rfl, (Except.ok.inj htable).symm⟩

theorem scanDirectory_eq_ok {host : Host} {tree : FileTree Image} {files : Path → PathState Document}
    {search : List Path} {r : ScanRequest} {log : List LogLine} {table : Table}
    (h : scanDirectory host tree files search r = (log, .ok table)) :
    ∃ before c rest, choices files search r = (before, .ok c) ∧
      summarize host tree r.directory c = (rest, .ok table) ∧ log = before ++ rest := by
  unfold scanDirectory at h
  split at h
  · exact nomatch (Prod.mk.inj h).2
  · exact nomatch (Prod.mk.inj h).2
  · exact nomatch (Prod.mk.inj h).2
  · split at h
    · exact nomatch (Prod.mk.inj h).2
    · next before c hc =>
      obtain ⟨rfl, hresult⟩ := Prod.mk.inj h
      exact ⟨before, c, _, hc, Prod.ext rfl hresult, rfl⟩

/-- A scan that gives a table accounts for every file that it finds. -/
theorem scan_accounts_for_files {host : Host} {tree : FileTree Image}
    {files : Path → PathState Document} {search : List Path} {r : ScanRequest} {log : List LogLine}
    {table : Table} (h : scanDirectory host tree files search r = (log, .ok table)) :
    ∃ before c found rows, choices files search r = (before, .ok c) ∧
      (∀ line ∈ before, line.channel = .settings) ∧
      tree.collectIn host.nesting r.directory c.selection = .ok found ∧
      -- every file is found once, and it is either opened or skipped
      (found.map Prod.fst).Nodup ∧
      (∀ f ∈ found,
        (∃ store, (readTagStore c.backend f.1 (.file f.2)).result = .ok store ∧
          (f.1, store) ∈ opened c.backend found ∧
          ∀ reason, (f.1, reason) ∉ skipped c.backend found) ∨
        ∃ reason, (readTagStore c.backend f.1 (.file f.2)).result =
            .error (.importFailed f.1 reason) ∧
          (f.1, reason) ∈ skipped c.backend found ∧
          ∀ store, (f.1, store) ∉ opened c.backend found) ∧
      ((opened c.backend found).map Prod.fst).Sublist (found.map Prod.fst) ∧
      ((skipped c.backend found).map Prod.fst).Sublist (found.map Prod.fst) ∧
      (opened c.backend found).length + (skipped c.backend found).length = found.length ∧
      -- one row for each file that is opened, one warning for each that is skipped
      List.Forall₂ IsRow (opened c.backend found) rows ∧
      log = before ++ (skipped c.backend found).map skipLine ++
        [closingLine rows.length r.directory] ∧
      table = Table.ofRows host.display columns rows ∧
      (∀ R, host.display.Keeps R → List.Forall₂ (List.Forall₂ R) rows table.rows) ∧
      -- the cells of the quantities are those of the table of the stores
      ∃ views, Table.ofStores host.display ((opened c.backend found).map Prod.snd) = .ok views ∧
        views.columns = table.columns.drop 2 ∧ views.rows = table.rows.map (List.drop 2) ∧
        (table.columns = [] ↔ rows = []) ∧ (views.columns = [] ↔ rows = []) := by
  obtain ⟨before, c, rest, hchoices, hsummarize, rfl⟩ := scanDirectory_eq_ok h
  obtain ⟨found, s, hfound, hentries, rfl, rfl⟩ := summarize_eq_ok hsummarize
  obtain ⟨⟨rows, hrows, hadded⟩, hlog, hlength⟩ := entries_accounts hentries
  rw [List.nil_append] at hadded hlog
  obtain rfl := hadded
  have hnodup := FileTree.nodup_collectIn hfound
  have hsettings : ∀ line ∈ before, line.channel = .settings := by
    rw [choices_eq] at hchoices
    obtain ⟨rfl, -⟩ := Prod.mk.inj hchoices
    exact fun line => channel_settingsLog
  have hviews : Table.ofStores host.display ((opened c.backend found).map Prod.snd) =
      .ok (Table.ofRows host.display Table.quantityColumns (s.rows.map (List.drop 2))) := by
    rw [Table.ofStores, summaryRows_of_isRow hrows]
    rfl
  have hdrop := Table.ofRows_drop host.display columns s.rows 2
  refine ⟨before, c, found, s.rows, hchoices, hsettings, hfound, hnodup,
    fun f hf => opened_or_skipped hnodup hentries hf, opened_sublist .., skipped_sublist .., hlength,
    hrows, ?_, rfl, ?_, _, hviews, congrArg Table.columns hdrop, congrArg Table.rows hdrop,
    Table.columns_ofRows_eq_nil _ (List.cons_ne_nil _ _), ?_⟩
  · rw [hlog, List.append_assoc]
  · exact fun R hkeeps => Table.forall₂_ofRows hkeeps fun row hrow =>
      Nat.le_of_eq (length_of_isRow hrows row hrow)
  · have hcolumns : Table.quantityColumns ≠ [] := by simp [Table.quantityColumns, Quantity.all]
    rw [Table.columns_ofRows_eq_nil _ hcolumns, List.map_eq_nil_iff]

def makerPicture : Image :=
  ⟨[0xFF], .ok [], .ok (some ⟨[(0x010F, .text "Maker")], .ok [], .ok []⟩)⟩

def emptyPicture : Image := ⟨[], .ok [], .ok none⟩

def makerAndEmpty : FileTree Image :=
  ⟨⟨[(["d"], .directory), (["d", "a.jpg"], .file makerPicture), (["d", "b.jpg"], .file emptyPicture)],
    by simp⟩⟩

def makerRow : List Cell :=
  .value (.text "a.jpg") :: .path ⟨.none, ["d", "a.jpg"]⟩ :: .value (.text "Maker") ::
    List.replicate 12 .empty

theorem collectIn_makerAndEmpty (nesting : Nat) :
    makerAndEmpty.collectIn nesting ⟨.none, ["d"]⟩ ⟨false, false⟩ =
      .ok [(⟨.none, ["d", "a.jpg"]⟩, makerPicture), (⟨.none, ["d", "b.jpg"]⟩, emptyPicture)] := by
  have hcollect : makerAndEmpty.collect ["d"] ⟨false, false⟩ =
      [(["a.jpg"], makerPicture), (["b.jpg"], emptyPicture)] := by
    rw [FileTree.collect, FileTree.gather, sortByPath, List.mergeSort_of_pairwise]
    · rfl
    · decide
  have hpassable : makerAndEmpty.Passable nesting ⟨.none, ["d"]⟩ ⟨false, false⟩ :=
    FileTree.passable_iff_findSome?.2 rfl
  refine (FileTree.collectIn_eq_ok rfl).2 ⟨hpassable, ?_⟩
  change _ = (makerAndEmpty.collect ["d"] ⟨false, false⟩).map _
  rw [hcollect]
  rfl

def plainRequest : ScanRequest :=
  ⟨⟨.none, ["d"]⟩, some false, some false, some (.text "pillow")⟩

theorem scanDirectory_makerAndEmpty :
    scanDirectory (.dataFrames 1000) makerAndEmpty (fun _ => .missing) [] plainRequest =
      ([.warning .scan "Skipping d/b.jpg: file is empty",
        .info .scan "Summarized 1 image files in d"], .ok ⟨columns, [makerRow]⟩) := by
  have hstate : makerAndEmpty.state ⟨.none, ["d"]⟩ = .directory := rfl
  simp only [scanDirectory, plainRequest, hstate, choices, explicit?, summarize,
    collectIn_makerAndEmpty]
  rfl

theorem scan_accounts_for_files_makerAndEmpty :
    scanDirectory (.dataFrames 1000) makerAndEmpty (fun _ => .missing) [] plainRequest =
      ([.warning .scan "Skipping d/b.jpg: file is empty",
        .info .scan "Summarized 1 image files in d"], .ok ⟨columns, [makerRow]⟩) ∧
      ∃ found rows, makerAndEmpty.collectIn 1000 ⟨.none, ["d"]⟩ ⟨false, false⟩ =
          .ok found ∧
        (opened (.text "pillow") found).length + (skipped (.text "pillow") found).length = 2 ∧
        List.Forall₂ IsRow (opened (.text "pillow") found) rows ∧
        [LogLine.warning .scan "Skipping d/b.jpg: file is empty",
            .info .scan "Summarized 1 image files in d"] =
          (skipped (.text "pillow") found).map skipLine ++
            [closingLine rows.length ⟨.none, ["d"]⟩] ∧
        List.Forall₂ (List.Forall₂ Cell.ShownAs) rows [makerRow] := by
  obtain ⟨before, c, found, rows, hchoices, -, hfound, -, -, -, -, hlength, hrows, hlog, -, hshown, -⟩ :=
    scan_accounts_for_files scanDirectory_makerAndEmpty
  obtain ⟨rfl, hc⟩ := Prod.mk.inj hchoices
  obtain rfl := Except.ok.inj hc
  obtain rfl := Except.ok.inj ((collectIn_makerAndEmpty _).symm.trans hfound)
  exact ⟨scanDirectory_makerAndEmpty, _, rows, hfound, hlength, hrows, hlog,
    hshown _ DataFrame.keeps_shownAs⟩

end Exif.Scan
