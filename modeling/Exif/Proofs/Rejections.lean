import Exif.Proofs.FileTree
import Exif.Proofs.Metadata.Faults
import Exif.Proofs.Reading
import Exif.Proofs.TiffHeader.Segments

/-! What reading the store of a path comes to. All that speaks against a store is listed in its order of
precedence; the first of it is the import error, and there is a store if nothing speaks against it. Only
a path that is too long to be looked up is outside of this: its error is passed on as it is. -/

namespace Exif

/-- What an import error tells: its reason, the failure behind it if there is one, and the path it
names where that is not the path of the file. -/
structure Rejection where
  text : String
  cause : Option CollectionError := none
  path : Option Path := none

def ImportReason.cause? : ImportReason → Option CollectionError
  | broken _ kind message => some (.decoder (.broken kind message))
  | conversion _ e => some (.conversion e)
  | notAFile | emptyFile | refused _ _ | noData => none

def ImportReason.path? : ImportReason → Option Path
  | refused path _ => some path
  | _ => none

def ImportReason.rejection (r : ImportReason) : Rejection := ⟨r.text, r.cause?, r.path?⟩

/-- How a fault is reported: a decoder that refuses a file gives the reason and the path itself, and any
other fault is the failure behind an error that names the decoder. -/
def CollectionError.rejection (d : Decoder) : CollectionError → Rejection
  | decoder (.refused path reason) => { text := reason, path := some path }
  | decoder (.broken kind message) =>
    { text := d.name ++ " failed: " ++ message, cause := some (.decoder (.broken kind message)) }
  | conversion e => { text := d.name ++ " failed: " ++ e.message, cause := some (.conversion e) }

theorem CollectionError.rejection_reason (d : Decoder) (e : CollectionError) :
    (e.reason d).rejection = e.rejection d := by
  match e with
  | .decoder (.refused path reason) => rfl
  | .decoder (.broken kind message) => rfl
  | .conversion e => rfl

/-! ## Pictures -/

namespace Image

def rejections (i : Image) (d : Decoder) : List Rejection :=
  (i.faults d).map (CollectionError.rejection d) ++
    if i.readings d = [] then [{ text := "no EXIF data found" }] else []

/-- A picture that is not empty gives the store of what is read in it, or else its first rejection. -/
theorem rejection_store (i : Image) (d : Decoder) (p : Path) :
    (i.store d p).mapError ImportReason.rejection =
      firstError (i.rejections d) (i.storeOf p (.ofList (i.readings d))) := by
  unfold rejections
  cases hfaults : i.faults d with
  | nil =>
    have hcollect : i.collect d = .ok (.ofList (i.readings d)) := by
      rw [collect_eq, hfaults]
      rfl
    rw [store_of_collect hcollect, List.map_nil, List.nil_append]
    by_cases hnil : i.readings d = []
    · rw [if_pos (OrderedMap.ofList_entries_eq_nil.2 hnil), if_pos hnil]
      rfl
    · rw [if_neg (mt OrderedMap.ofList_entries_eq_nil.1 hnil), if_neg hnil]
      rfl
  | cons e es =>
    have hcollect : i.collect d = .error e := by
      rw [collect_eq, hfaults]
      rfl
    rw [store, hcollect]
    exact congrArg Except.error (e.rejection_reason d)

end Image

/-! ## Backends -/

theorem readTagStore_unknown {given : Datum} (h : Backend.ofDatum? given = none) (p : Path)
    (state : PathState Image) :
    readTagStore given p state = ⟨[], .error (.unknownBackend given)⟩ := by
  rw [readTagStore, h]

/-- No backend that is known is reported as unknown. -/
theorem readTagStore_known {given : Datum} {b : Backend} (h : Backend.ofDatum? given = some b)
    (p : Path) (state : PathState Image) (other : Datum) :
    (readTagStore given p state).result ≠ .error (.unknownBackend other) := by
  intro hresult
  cases state with
  | missing | directory | refused e =>
    simp only [readTagStore, h] at hresult
    cases hresult
  | file i =>
    simp only [readTagStore, h] at hresult
    split at hresult
    · cases hresult
    · obtain ⟨reason, -, hreason⟩ := mapError_eq_error.1 hresult
      cases hreason

/-! ## Paths -/

/-- All that speaks against a store of what a path leads to, in the order of precedence. -/
def PathState.rejections (d : Decoder) : PathState Image → List Rejection
  | missing | directory => [{ text := "file not found or not a file" }]
  | refused _ => []
  | file i => (if i.bytes = [] then [{ text := "file is empty" }] else []) ++ i.rejections d

section

variable {b : Backend} {p : Path}

theorem called_of_file {i : Image} (h : i.bytes ≠ []) :
    (readTagStore (.text b.name) p (.file i)).called = [b.decoder p] := by
  rw [readTagStore_file h]

theorem called_of_no_file {state : PathState Image} (h : ∀ i, state = .file i → i.bytes = []) :
    (readTagStore (.text b.name) p state).called = [] := by
  cases state with
  | missing | directory | refused e => simp only [readTagStore, Backend.ofDatum?_name]
  | file i => simp only [readTagStore, Backend.ofDatum?_name, h i rfl, List.isEmpty_nil, if_true]

/-- The first rejection is the one that is told. -/
theorem reading_fails {state : PathState Image} {r : Rejection} {rest : List Rejection}
    (h : state.rejections (b.decoder p) = r :: rest) :
    ∃ reason, (readTagStore (.text b.name) p state).result = .error (.importFailed p reason) ∧
      reason.rejection = r := by
  cases state with
  | missing | directory =>
    refine ⟨.notAFile, ?_, (List.cons.inj h).1⟩
    simp only [readTagStore, Backend.ofDatum?_name]
  | refused e => cases h
  | file i =>
    by_cases hempty : i.bytes = []
    · rw [PathState.rejections, if_pos hempty] at h
      refine ⟨.emptyFile, ?_, (List.cons.inj h).1⟩
      simp only [readTagStore, Backend.ofDatum?_name, hempty, List.isEmpty_nil, if_true]
    · rw [PathState.rejections, if_neg hempty, List.nil_append] at h
      have hstore := i.rejection_store (b.decoder p) p
      rw [h] at hstore
      obtain ⟨reason, hreason, hr⟩ := mapError_eq_error.1 hstore
      refine ⟨reason, ?_, hr⟩
      rw [readTagStore_file hempty, hreason]
      rfl

/-- Where nothing speaks against it, there is a store of all that is read. -/
theorem reading_succeeds {state : PathState Image} (h : state.rejections (b.decoder p) = [])
    (hlooked : ∀ e, state ≠ .refused e) :
    ∃ i, state = .file i ∧ (readTagStore (.text b.name) p state).result =
      .ok (i.storeOf p (.ofList (i.readings (b.decoder p)))) := by
  cases state with
  | missing | directory => exact nomatch h
  | refused e => exact absurd rfl (hlooked e)
  | file i =>
    obtain ⟨hempty, hrejections⟩ := List.append_eq_nil_iff.1 h
    have hne : i.bytes ≠ [] := fun hnil => by simp [hnil] at hempty
    have hstore := i.rejection_store (b.decoder p) p
    rw [hrejections] at hstore
    refine ⟨i, rfl, ?_⟩
    rw [readTagStore_file hne, mapError_eq_ok.1 hstore]
    rfl

end

/-- A backend that is unknown is reported before the path is looked at. Otherwise the decoder of the
backend is called for a file with content, and no decoder in any other case; there is a store if there
is no rejection, and else the first one is told. A path that is too long to be looked up escapes this. -/
theorem readTagStore_outcome (backend : Datum) (p : Path) (state : PathState Image) :
    -- only three texts name a backend, whatever the path leads to
    ((∃ given, (readTagStore backend p state).result = .error (.unknownBackend given)) ↔
        ∀ name ∈ ["auto", "exifread", "pillow"], backend ≠ .text name) ∧
      ((∀ name ∈ ["auto", "exifread", "pillow"], backend ≠ .text name) →
        (readTagStore backend p state).called = []) ∧
      (∀ b : Backend, backend = .text b.name →
        -- the decoders that are called
        (∀ i, state = .file i → i.bytes ≠ [] →
          (readTagStore backend p state).called = [b.decoder p]) ∧
        ((∀ i, state = .file i → i.bytes = []) → (readTagStore backend p state).called = []) ∧
        -- an import error for the first rejection, or else a store
        ((∀ e, state ≠ .refused e) →
          (∀ r rest, state.rejections (b.decoder p) = r :: rest → ∃ reason,
            (readTagStore backend p state).result = .error (.importFailed p reason) ∧
              reason.rejection = r) ∧
          (state.rejections (b.decoder p) = [] → ∃ i s, state = .file i ∧
            (readTagStore backend p state).result = .ok s ∧ s.source = some p ∧
            ∀ position, s.exifOffset = TiffHeader.locateIn ⟨i.bytes, position⟩)) ∧
        -- a path that is refused
        ∀ e, state = .refused e → (readTagStore backend p state).result = .error (.path e)) ∧
      ∀ (t : FileTree Image) (e : PathError), t.state p = .refused e ↔
        e = .fault .nameTooLong p ∧ t.reach p = .error e := by
  refine ⟨⟨?_, fun h => ?_⟩, fun h => ?_, fun b hb => ?_, fun t e => FileTree.state_eq_refused⟩
  · rintro ⟨given, hgiven⟩
    rw [← Backend.ofDatum?_eq_none]
    cases hb : Backend.ofDatum? backend with
    | none => rfl
    | some b => exact absurd hgiven (readTagStore_known hb p state given)
  · exact ⟨backend, by rw [readTagStore_unknown (Backend.ofDatum?_eq_none.2 h)]⟩
  · rw [readTagStore_unknown (Backend.ofDatum?_eq_none.2 h)]
  · subst hb
    refine ⟨fun i hi hne => ?_, called_of_no_file, fun hlooked => ⟨fun r rest => reading_fails,
      fun h => ?_⟩, fun e he => ?_⟩
    · rw [hi, called_of_file hne]
    · obtain ⟨i, hi, hstore⟩ := reading_succeeds h hlooked
      refine ⟨i, _, hi, hstore, rfl, fun position => ?_⟩
      rw [TiffHeader.locateIn_eq]
      rfl
    · rw [he]
      simp only [readTagStore, Backend.ofDatum?_name]

/-- A picture of which one directory breaks off when asked for and another is refused. -/
def brokenPicture : Image where
  bytes := [0xFF, 0xD8]
  listing := .ok []
  directories := .ok (some
    ⟨[(0x010F, .text "Maker")], .error (.broken "KeyError" "'boom'"),
      .error (.refused ⟨.none, ["a.jpg"]⟩ "corrupt")⟩)

theorem readTagStore_outcome_brokenPicture :
    (readTagStore (.text "auto") ⟨.none, ["a.jpg"]⟩ (.file brokenPicture)).called =
        [.directories] ∧
      ∃ reason, (readTagStore (.text "auto") ⟨.none, ["a.jpg"]⟩ (.file brokenPicture)).result =
          .error (.importFailed ⟨.none, ["a.jpg"]⟩ reason) ∧
        reason.rejection =
          { text := "pillow failed: 'boom'", cause := some (.decoder (.broken "KeyError" "'boom'")) } := by
  obtain ⟨-, -, hknown, -⟩ := readTagStore_outcome (.text "auto") ⟨.none, ["a.jpg"]⟩
    (.file brokenPicture)
  obtain ⟨hcalled, -, hrejections, -⟩ := hknown .auto rfl
  refine ⟨hcalled brokenPicture rfl (by decide), ?_⟩
  exact (hrejections fun e h => nomatch h).1 _ [{ text := "corrupt", path := some ⟨.none, ["a.jpg"]⟩ }] rfl

def longName : String := String.ofList (List.replicate 256 'n')

/-- Nothing stands there, but neither a store nor an import error comes back. -/
theorem readTagStore_escapes_longName :
    (FileTree.empty : FileTree Image).nodes.entries = [] ∧
      (readTagStore (.text "auto") ⟨.none, [longName]⟩
        (FileTree.empty.state ⟨.none, [longName]⟩)).result =
        .error (.path (.fault .nameTooLong ⟨.none, [longName]⟩)) := by
  have hnul : Char.ofNat 0 ∉ longName.toList := FileTree.not_mem_replicate (by decide) 256
  have hsize : longName.utf8ByteSize = 256 := FileTree.utf8ByteSize_replicate 'n' 256
  have hpath : longName.utf8ByteSize ≤ FileTree.maxPath := hsize.trans_le (by decide)
  have hlong : FileTree.maxComponent < longName.utf8ByteSize := hsize ▸ by decide
  refine ⟨rfl, ?_⟩
  rw [FileTree.state_of_long FileTree.empty hnul hpath hlong]
  rfl

end Exif
