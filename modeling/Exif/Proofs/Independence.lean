import Exif.Proofs.Accounting
import Exif.Proofs.Scan

/-! Files of a scan do not disturb each other. Two trees may have anything at one place, if they have the
same at all others: then scans with the same choices find the same other files in the same order, and since
what a file adds depends on nothing but the file, their rows and their warnings are the same too. -/

namespace Exif

namespace FileTree

variable {α : Type}

def AgreeBut (odd : List String) (t t' : FileTree α) : Prop :=
  ∀ place, place ≠ odd → t.nodes.get? place = t'.nodes.get? place

def placeBelow (dir p : Path) : List String :=
  lexicalPlace dir ++ p.components.drop dir.components.length

/-- A file that is found below a directory is not the one at a certain place. -/
def elsewhere (dir : Path) (odd : List String) (p : Path) : Bool := placeBelow dir p ≠ odd

theorem placeBelow_below (dir : Path) (components : List String) :
    placeBelow dir (dir.below components) = lexicalPlace dir ++ components := by
  rw [placeBelow, Path.below, List.drop_left]

/-- A file that is found stands at its place. -/
theorem get?_placeBelow {t : FileTree α} {nesting : Nat} {dir : Path} {sel : Selection}
    {found : List (Path × α)} (hdir : t.state dir = .directory)
    (hfound : t.collectIn nesting dir sel = .ok found) :
    ∀ f ∈ found, t.nodes.get? (placeBelow dir f.1) = some (.file f.2) := by
  obtain ⟨-, rfl⟩ := (collectIn_eq_ok hdir).1 hfound
  intro file hfile
  obtain ⟨f, hf, rfl⟩ := List.mem_map.1 hfile
  obtain ⟨-, -, -, hget⟩ := mem_collect.1 hf
  rw [placeBelow_below]
  exact hget

variable {odd : List String} {t t' : FileTree α} (h : AgreeBut odd t t')
include h

/-- Without the one file, the same files are collected in the same order. -/
theorem AgreeBut.filter_collect (place : List String) (sel : Selection) :
    ((t.collect place sel).filter fun f => place ++ f.1 ≠ odd) =
      (t'.collect place sel).filter fun f => place ++ f.1 ≠ odd := by
  apply eq_of_pairwise_lt
  · exact (pairwise_collect t place sel).filter _
  · exact (pairwise_collect t' place sel).filter _
  · rintro ⟨path, content⟩
    simp only [List.mem_filter, mem_collect, decide_eq_true_eq]
    apply and_congr_left
    intro hne
    rw [h _ hne]

theorem AgreeBut.filter_collectIn {nesting nesting' : Nat} {dir : Path} {sel : Selection}
    {found found' : List (Path × α)} (hdir : t.state dir = .directory)
    (hdir' : t'.state dir = .directory) (hfound : t.collectIn nesting dir sel = .ok found)
    (hfound' : t'.collectIn nesting' dir sel = .ok found') :
    (found.filter fun f => elsewhere dir odd f.1) = found'.filter fun f => elsewhere dir odd f.1 := by
  obtain ⟨-, rfl⟩ := (collectIn_eq_ok hdir).1 hfound
  obtain ⟨-, rfl⟩ := (collectIn_eq_ok hdir').1 hfound'
  simp only [List.filter_map, Function.comp_def, elsewhere, placeBelow_below]
  rw [h.filter_collect]

end FileTree

namespace Scan

def rowPath? : List Cell → Option Path
  | _ :: .path p :: _ => some p
  | _ => none

/-- What a scan that gives a table has gone through: the files that it found, each at its place, and the
rows of those that it could open. -/
structure Account (host : Host) (tree : FileTree Image) (dir : Path) (c : Choices)
    (log : List LogLine) (table : Table) (found : List (Path × Image)) (rows : List (List Cell)) :
    Prop where
  collected : tree.collectIn host.nesting dir c.selection = .ok found
  placed : ∀ f ∈ found, tree.nodes.get? (FileTree.placeBelow dir f.1) = some (.file f.2)
  rows_isRow : List.Forall₂ IsRow (opened c.backend found) rows
  log_eq : log = (skipped c.backend found).map skipLine ++ [closingLine rows.length dir]
  table_eq : table = Table.ofRows host.display columns rows
  shown : ∀ R, host.display.Keeps R → List.Forall₂ (List.Forall₂ R) rows table.rows

/-! ## Rows and warnings of some files -/

theorem IsRow.rowPath?_eq {f : Path × TagStore} {row : List Cell} (h : IsRow f row) :
    rowPath? row = some f.1 := by
  obtain ⟨summary, -, rfl⟩ := h
  rfl

/-- A store has one row. -/
theorem isRow_rightUnique : Relator.RightUnique IsRow := by
  rintro f row row' ⟨summary, hsummary, rfl⟩ ⟨summary', hsummary', rfl⟩
  obtain rfl := Except.ok.inj (hsummary.symm.trans hsummary')
  rfl

theorem filter_rows {fs : List (Path × TagStore)} {rows : List (List Cell)}
    (h : List.Forall₂ IsRow fs rows) (p : Path → Bool) :
    List.Forall₂ IsRow (fs.filter fun f => p f.1) (rows.filter fun row => (rowPath? row).any p) := by
  refine List.rel_filter ?_ h
  intro f row hrow
  simp only [hrow.rowPath?_eq, Option.any_some]

variable (backend : Datum) (p : Path → Bool)

theorem filter_opened (files : List (Path × Image)) :
    ((opened backend files).filter fun f => p f.1) = opened backend (files.filter fun f => p f.1) :=
  OrderedMap.filter_filterMap_of_key (fun _ _ h => (withStore?_eq_some.1 h).1) p files

theorem filter_skipped (files : List (Path × Image)) :
    ((skipped backend files).filter fun f => p f.1) = skipped backend (files.filter fun f => p f.1) :=
  OrderedMap.filter_filterMap_of_key (fun _ _ h => (withReason?_eq_some.1 h).1) p files

/-! ## Scans -/

/-- A scan that gives a table has found the path to lead to a directory. -/
theorem account_of_scanDirectory {host : Host} {tree : FileTree Image}
    {files : Path → PathState Document} {search : List Path} {r : ScanRequest} {c : Choices}
    (hc : explicit? r = some c) {log : List LogLine} {table : Table}
    (h : scanDirectory host tree files search r = (log, .ok table)) :
    tree.state r.directory = .directory ∧
      ∃ found rows, Account host tree r.directory c log table found rows := by
  have hdir : tree.state r.directory = .directory := by
    unfold scanDirectory at h
    split at h
    · exact nomatch (Prod.mk.inj h).2
    · exact nomatch (Prod.mk.inj h).2
    · exact nomatch (Prod.mk.inj h).2
    · next hdir => exact hdir
  obtain ⟨before, c', rest, hchoices, hsummarize, rfl⟩ := scanDirectory_eq_ok h
  rw [choices, hc] at hchoices
  obtain ⟨rfl, hok⟩ := Prod.mk.inj hchoices
  obtain rfl := Except.ok.inj hok
  obtain ⟨found, s, hfound, hentries, rfl, rfl⟩ := summarize_eq_ok hsummarize
  obtain ⟨⟨rows, hrows, hadded⟩, hlog, -⟩ := entries_accounts hentries
  rw [List.nil_append] at hadded hlog
  obtain rfl := hadded
  refine ⟨hdir, found, s.rows, hfound, FileTree.get?_placeBelow hdir hfound, hrows, ?_, rfl, ?_⟩
  · rw [hlog]
    rfl
  · exact fun R hkeeps => Table.forall₂_ofRows hkeeps fun row hrow =>
      Nat.le_of_eq (length_of_isRow hrows row hrow)

/-- Independence. Two trees have the same at all places but one, and a request that leaves nothing to the
settings gives a table for both. Then the two scans find the same other files in the same order, open the
same of them, with the same stores, and give them the same rows in the same order; they skip the others
for the same reasons, with the same warnings in the same order. -/
theorem scans_agree_elsewhere {odd : List String} {tree tree' : FileTree Image}
    (hsame : tree.AgreeBut odd tree') {host host' : Host} {files files' : Path → PathState Document}
    {search search' : List Path} {r : ScanRequest} {c : Choices} (hc : explicit? r = some c)
    {log log' : List LogLine} {table table' : Table}
    (h : scanDirectory host tree files search r = (log, .ok table))
    (h' : scanDirectory host' tree' files' search' r = (log', .ok table')) :
    ∃ found rows found' rows', Account host tree r.directory c log table found rows ∧
      Account host' tree' r.directory c log' table' found' rows' ∧
      (found.filter fun f => FileTree.elsewhere r.directory odd f.1) =
        (found'.filter fun f => FileTree.elsewhere r.directory odd f.1) ∧
      ((opened c.backend found).filter fun f => FileTree.elsewhere r.directory odd f.1) =
        ((opened c.backend found').filter fun f => FileTree.elsewhere r.directory odd f.1) ∧
      (rows.filter fun row => (rowPath? row).any (FileTree.elsewhere r.directory odd)) =
        (rows'.filter fun row => (rowPath? row).any (FileTree.elsewhere r.directory odd)) ∧
      ((skipped c.backend found).filter fun f => FileTree.elsewhere r.directory odd f.1) =
        ((skipped c.backend found').filter fun f => FileTree.elsewhere r.directory odd f.1) := by
  obtain ⟨hdir, found, rows, haccount⟩ := account_of_scanDirectory hc h
  obtain ⟨hdir', found', rows', haccount'⟩ := account_of_scanDirectory hc h'
  have hfiles := hsame.filter_collectIn hdir hdir' haccount.collected haccount'.collected
  have hopened : ((opened c.backend found).filter fun f => FileTree.elsewhere r.directory odd f.1) =
      (opened c.backend found').filter fun f => FileTree.elsewhere r.directory odd f.1 := by
    rw [filter_opened, filter_opened, hfiles]
  refine ⟨found, rows, found', rows', haccount, haccount', hfiles, hopened, ?_, ?_⟩
  · have hrows := filter_rows haccount.rows_isRow (FileTree.elsewhere r.directory odd)
    have hrows' := filter_rows haccount'.rows_isRow (FileTree.elsewhere r.directory odd)
    rw [hopened] at hrows
    exact List.right_unique_forall₂' isRow_rightUnique hrows hrows'
  · rw [filter_skipped, filter_skipped, hfiles]

/-- The directory of the picture and the file without content, and the directory of the picture alone. -/
theorem agreeBut_makerAndEmpty : makerAndEmpty.AgreeBut ["d", "b.jpg"] (onePicture makerPicture) := by
  intro place hne
  simp [makerAndEmpty, onePicture, OrderedMap.get?, List.find?_cons, hne.symm]

theorem scanDirectory_onePicture :
    scanDirectory (.dataFrames 1000) (onePicture makerPicture) (fun _ => .missing) [] plainRequest =
      ([.info .scan "Summarized 1 image files in d"], .ok ⟨columns, [makerRow]⟩) := by
  have hstate : (onePicture makerPicture).state ⟨.none, ["d"]⟩ = .directory := rfl
  simp only [scanDirectory, plainRequest, hstate, choices, explicit?, summarize, collectIn_onePicture]
  rfl

/-- The row of the picture is the same beside a file that is skipped and without it. -/
theorem scans_agree_elsewhere_makerAndEmpty :
    makerAndEmpty.AgreeBut ["d", "b.jpg"] (onePicture makerPicture) ∧
      scanDirectory (.dataFrames 1000) makerAndEmpty (fun _ => .missing) [] plainRequest =
        ([.warning .scan "Skipping d/b.jpg: file is empty",
          .info .scan "Summarized 1 image files in d"], .ok ⟨columns, [makerRow]⟩) ∧
      scanDirectory (.dataFrames 1000) (onePicture makerPicture) (fun _ => .missing) [] plainRequest =
        ([.info .scan "Summarized 1 image files in d"], .ok ⟨columns, [makerRow]⟩) ∧
      ∃ found rows found' rows',
        makerAndEmpty.collectIn 1000 ⟨.none, ["d"]⟩ ⟨false, false⟩ = .ok found ∧
        (onePicture makerPicture).collectIn 1000 ⟨.none, ["d"]⟩ ⟨false, false⟩ = .ok found' ∧
        List.Forall₂ IsRow (opened (.text "pillow") found) rows ∧
        List.Forall₂ IsRow (opened (.text "pillow") found') rows' ∧
        (rows.filter fun row =>
            (rowPath? row).any (FileTree.elsewhere ⟨.none, ["d"]⟩ ["d", "b.jpg"])) =
          rows'.filter fun row =>
            (rowPath? row).any (FileTree.elsewhere ⟨.none, ["d"]⟩ ["d", "b.jpg"]) := by
  refine ⟨agreeBut_makerAndEmpty, scanDirectory_makerAndEmpty, scanDirectory_onePicture, ?_⟩
  obtain ⟨found, rows, found', rows', haccount, haccount', -, -, hrows, -⟩ :=
    scans_agree_elsewhere agreeBut_makerAndEmpty (c := ⟨⟨false, false⟩, .text "pillow"⟩) rfl
      scanDirectory_makerAndEmpty scanDirectory_onePicture
  exact ⟨found, rows, found', rows', haccount.collected, haccount'.collected, haccount.rows_isRow,
    haccount'.rows_isRow, hrows⟩

end Scan

end Exif
