import Exif.Image
import Exif.Proofs.Metadata.Findings
import Exif.Proofs.Results
import Exif.Proofs.TagStore

/-! Reading the store of a file step by step: the backend that a text names, the file that is read,
and the store made of what its decoder collects. -/

namespace Exif

theorem Backend.ofDatum?_name (b : Backend) : Backend.ofDatum? (.text b.name) = some b := by
  match b with
  | .auto | .fixed .listing | .fixed .directories => decide

theorem Backend.ofDatum?_eq_some_iff {d : Datum} {b : Backend} : ofDatum? d = some b ↔ d = .text b.name := by
  constructor
  · intro h
    cases d with
    | text s =>
      have hname : b.name = s := by simpa using List.find?_some h
      rw [hname]
    | _ => exact nomatch h
  · rintro rfl
    exact ofDatum?_name b

/-- Three texts name a backend, and nothing else does. -/
theorem Backend.ofDatum?_eq_none {given : Datum} :
    Backend.ofDatum? given = none ↔
      ∀ name ∈ ["auto", "exifread", "pillow"], given ≠ .text name := by
  cases given with
  | text s =>
    have hname : (∀ name ∈ ["auto", "exifread", "pillow"], Datum.text s ≠ .text name) ↔
        ∀ b ∈ all, b.name ≠ s := by
      simp [all, Backend.name, Decoder.name, eq_comm]
    rw [hname, ofDatum?, List.find?_eq_none]
    simp only [decide_eq_true_eq, ne_eq]
  | _ => exact iff_of_true rfl fun name _ h => nomatch h

theorem readTagStore_file {i : Image} (h : i.bytes ≠ []) (b : Backend) (p : Path) :
    readTagStore (.text b.name) p (.file i) =
      ⟨[b.decoder p], (i.store (b.decoder p) p).mapError (.importFailed p)⟩ := by
  simp only [readTagStore, Backend.ofDatum?_name, List.isEmpty_iff, if_neg h]

def Image.storeOf (i : Image) (p : Path) (values : Collected) : TagStore :=
  .ofMap (values.mapValues TagValue.toDatum) (TiffHeader.locate i.bytes) (some p)

theorem Image.get?_storeOf (i : Image) (p : Path) (values : Collected) (tag : Tag) :
    (i.storeOf p values).tags.get? tag = values.get? tag.id :=
  TagStore.get?_ofMap_toDatum values _ _ tag

theorem Image.store_of_collect {i : Image} {d : Decoder} {values : Collected}
    (h : i.collect d = .ok values) (p : Path) :
    i.store d p = if values.entries = [] then .error .noData else .ok (i.storeOf p values) := by
  simp only [Image.store, h, Except.mapError, bind, Except.bind, List.isEmpty_iff]
  rfl

theorem Image.collect_of_store {i : Image} {d : Decoder} {p : Path} {s : TagStore}
    (h : i.store d p = .ok s) :
    ∃ values, i.collect d = .ok values ∧ values.entries ≠ [] ∧ s = i.storeOf p values := by
  obtain ⟨values, hvalues, -⟩ := bind_eq_ok.1 h
  have hcollect := mapError_eq_ok.1 hvalues
  rw [store_of_collect hcollect] at h
  split at h
  · exact nomatch h
  · next hne => exact ⟨values, hcollect, hne, (Except.ok.inj h).symm⟩

theorem store_of_readTagStore {b : Backend} {p : Path} {i : Image} {s : TagStore}
    (h : (readTagStore (.text b.name) p (.file i)).result = .ok s) :
    i.bytes ≠ [] ∧ i.store (b.decoder p) p = .ok s := by
  by_cases hb : i.bytes = []
  · simp [readTagStore, Backend.ofDatum?_name, hb] at h
  · rw [readTagStore_file hb] at h
    exact ⟨hb, mapError_eq_ok.1 h⟩

/-- A store comes from a file that is not empty, read with the decoder of a backend. -/
theorem file_of_readTagStore {backend : Datum} {p : Path} {state : PathState Image} {s : TagStore}
    (h : (readTagStore backend p state).result = .ok s) :
    ∃ (b : Backend) (i : Image), backend = .text b.name ∧ state = .file i ∧
      i.store (b.decoder p) p = .ok s := by
  rcases hb : Backend.ofDatum? backend with _ | b
  · rw [readTagStore, hb] at h
    exact nomatch h
  · obtain rfl := Backend.ofDatum?_eq_some_iff.1 hb
    cases state with
    | file i => exact ⟨b, i, rfl, rfl, (store_of_readTagStore h).2⟩
    | missing | directory | refused _ =>
      rw [readTagStore, hb] at h
      exact nomatch h

/-- An import error names the path that was read. -/
theorem path_of_importFailed {backend : Datum} {p q : Path} {state : PathState Image}
    {reason : ImportReason}
    (h : (readTagStore backend p state).result = .error (.importFailed q reason)) : q = p := by
  unfold readTagStore at h
  cases hb : Backend.ofDatum? backend with
  | none =>
    rw [hb] at h
    exact nomatch h
  | some b =>
    rw [hb] at h
    cases state with
    | missing | directory => exact (ReadError.importFailed.inj (Except.error.inj h)).1.symm
    | refused e => exact nomatch h
    | file i =>
      dsimp only at h
      split at h
      · exact (ReadError.importFailed.inj (Except.error.inj h)).1.symm
      · obtain ⟨_, -, heq⟩ := mapError_eq_error.1 h
        exact (ReadError.importFailed.inj heq).1.symm

/-! ## What is collected -/

theorem Image.collect_listing {i : Image} {l : Listing} (h : i.listing = .ok l) :
    i.collect .listing = (Collected.ofFindings (Listing.findings l)).mapError .conversion := by
  rw [collect, h, ← Listing.collect_eq]
  rfl

theorem Image.collect_directories {i : Image} {d : DirectoryLists}
    (h : i.directories = .ok (some ⟨d.image, .ok d.exif, .ok d.thumbnail⟩)) (hne : d.image ≠ []) :
    i.collect .directories = (Collected.ofFindings d.findings).mapError .conversion := by
  have hempty : d.image.isEmpty = false := List.isEmpty_eq_false_iff.2 hne
  rw [collect, h, ← DirectoryLists.collect_eq]
  simp only [Except.mapError, bind, Except.bind, Directories.collect, hempty, Bool.false_eq_true,
    if_false]

end Exif
