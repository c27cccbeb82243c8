import Exif.Proofs.Metadata.Collection
import Exif.Proofs.TiffHeader.Layout
import Exif.Quantity

/-! The thumbnail of a picture stands in its file where the recorded offset puts it, counted from the
TIFF header: the walk over the segments finds the header, the decoder's entry gives the offset, and
their sum is the location. -/

namespace Exif

/-! ## Reported offsets -/

/-- The listing has the offset `o` of a thumbnail, and no field under its id is read later. The
fields that are read can be read. -/
def Listing.Reports (l : Listing) (o : Int) : Prop :=
  (∃ (before after : Listing) (key : String) (f : Field), l = before ++ (key, .field f) :: after ∧
    directoryWord key = "Thumbnail" ∧ f.id = Tag.thumbnailOffset.id ∧
    f.value? = .ok (some (.int o)) ∧
    ∀ key' g, (key', .field g) ∈ after → keeps key' g → g.id ≠ Tag.thumbnailOffset.id) ∧
  ∀ key f, (key, .field f) ∈ l → keeps key f → ∃ v, f.value? = .ok v

/-- The thumbnail directory has the offset `o` of a thumbnail, and no later entry under its id. The
entries that are read can be read. -/
def DirectoryLists.Reports (d : DirectoryLists) (o : Int) : Prop :=
  (∃ before datum after, d.thumbnail = before ++ ((Tag.thumbnailOffset.id : Int), datum) :: after ∧
    datum.entryValue? = .ok (some (.int o)) ∧ ∀ e ∈ after, e.1 ≠ Tag.thumbnailOffset.id) ∧
  ∀ e ∈ d.kept, ∃ v, e.2.entryValue? = .ok v

def Image.Reports (i : Image) (o : Int) : Decoder → Prop
  | .listing => ∃ l, i.listing = .ok l ∧ l.Reports o
  | .directories => ∃ d : DirectoryLists, d.image ≠ [] ∧
      i.directories = .ok (some ⟨d.image, .ok d.exif, .ok d.thumbnail⟩) ∧ d.Reports o

theorem Collected.get?_of_last {before after : List Finding} {id : Int} {v : TagValue}
    (h : ∀ f ∈ before ++ (id, .ok (some v)) :: after, ∃ w, f.2 = .ok w)
    (hlast : ∀ f ∈ after, f.1 ≠ id) :
    ∃ m, ofFindings (before ++ (id, .ok (some v)) :: after) = .ok m ∧ m.get? id = some v := by
  obtain ⟨m, hm⟩ := ofFindings_total h
  refine ⟨m, hm, (get?_ofFindings_eq_some hm).2 ⟨before, after, rfl, ?_⟩⟩
  intro f hf hid
  exact absurd hid (hlast f hf)

theorem Listing.ofFindings_of_reports {l : Listing} {o : Int} (h : l.Reports o) :
    ∃ m, Collected.ofFindings l.findings = .ok m ∧ m.get? Tag.thumbnailOffset.id = some (.int o) := by
  obtain ⟨⟨before, after, key, f, rfl, hword, hid, hvalue, hlast⟩, hread⟩ := h
  have hkeeps : keeps key f = true := by
    rw [keeps, hid, Tag.ofId?_id]
    simp [hword, thumbnailTags]
  have hfindings : findings (before ++ (key, .field f) :: after) = findings before ++
      ((Tag.thumbnailOffset.id : Int), .ok (some (.int o))) :: findings after := by
    rw [findings, List.filterMap_append, List.filterMap_cons, finding?, if_pos hkeeps, hid, hvalue]
    rfl
  rw [hfindings]
  apply Collected.get?_of_last
  · rw [← hfindings]
    intro g hg
    obtain ⟨key', g', hmem, hk, rfl⟩ := mem_findings hg
    exact hread key' g' hmem hk
  · intro g hg
    obtain ⟨key', g', hmem, hk, rfl⟩ := mem_findings hg
    exact hlast key' g' hmem hk

theorem DirectoryLists.ofFindings_of_reports {d : DirectoryLists} {o : Int} (h : d.Reports o) :
    ∃ m, Collected.ofFindings d.findings = .ok m ∧ m.get? Tag.thumbnailOffset.id = some (.int o) := by
  obtain ⟨⟨before, datum, after, hd, hvalue, hlast⟩, hread⟩ := h
  have hkeeps : keepsThumbnail ((Tag.thumbnailOffset.id : Int), datum) = true := by
    simp [keepsThumbnail, Tag.ofId?_id, thumbnailTags]
  have hfindings : d.findings =
      ((d.image.filter keeps ++ d.exif.filter keeps ++ before.filter keepsThumbnail).map finding ++
        ((Tag.thumbnailOffset.id : Int), .ok (some (.int o))) ::
          (after.filter keepsThumbnail).map finding) := by
    rw [findings, kept, hd, List.filter_append, List.filter_cons, if_pos hkeeps, ← List.append_assoc,
      List.map_append, List.map_cons, finding, hvalue]
  rw [hfindings]
  apply Collected.get?_of_last
  · rw [← hfindings]
    intro g hg
    obtain ⟨e, he, rfl⟩ := List.mem_map.1 hg
    exact hread e he
  · intro g hg
    obtain ⟨e, he, rfl⟩ := List.mem_map.1 hg
    exact hlast e (List.mem_filter.1 he).1

theorem Image.collect_of_reports {i : Image} {d : Decoder} {o : Int} (h : i.Reports o d) :
    ∃ m, i.collect d = .ok m ∧ m.get? Tag.thumbnailOffset.id = some (.int o) := by
  cases d with
  | listing =>
    obtain ⟨l, hl, hreports⟩ := h
    obtain ⟨m, hm, hget⟩ := Listing.ofFindings_of_reports hreports
    exact ⟨m, by rw [collect_listing hl, hm]; rfl, hget⟩
  | directories =>
    obtain ⟨d, hne, hd, hreports⟩ := h
    obtain ⟨m, hm, hget⟩ := DirectoryLists.ofFindings_of_reports hreports
    exact ⟨m, by rw [collect_directories hd hne, hm]; rfl, hget⟩

/-! ## The location -/

/-- The location of a reported thumbnail is its offset, counted from the TIFF header. -/
theorem thumbnailLocation_of_reports {i : Image} {b : Backend} {p : Path} {o : Int}
    (hb : i.bytes ≠ []) (h : i.Reports o (b.decoder p)) :
    ∃ s, (readTagStore (.text b.name) p (.file i)).result = .ok s ∧
      s.thumbnailLocation = .ok (o + TiffHeader.locate i.bytes) := by
  obtain ⟨m, hm, hget⟩ := Image.collect_of_reports h
  have hne : m.entries ≠ [] := List.ne_nil_of_mem (OrderedMap.get?_eq_some_iff.1 hget)
  have hint : (i.storeOf p m).int? .thumbnailOffset = some o := by
    rw [TagStore.int?, Image.get?_storeOf, hget]
  refine ⟨i.storeOf p m, ?_, ?_⟩
  · rw [readTagStore_file hb, Image.store_of_collect hm, if_neg hne]
    rfl
  · rw [TagStore.thumbnailLocation, TagStore.int, hint]
    rfl

open TiffHeader in
/-- Where a decoder reports the thumbnail of a JPEG file at an offset into its TIFF block, the
location is the position in the file of the byte that stands at that offset of the block: it counts
from the start of the block, behind the segments, the header and the identifier. In a file that is
itself built like a TIFF file, the location is the offset. -/
theorem thumbnailLocation_absolute (b : Backend) (p : Path) (i : Image) :
    (∀ (segments : List Segment) (block rest : List UInt8) (hblock : block.length ≤ 65527) (o : Nat)
      (ho : o < block.length), (∀ s ∈ segments, s.marker = app1 → ¬ identifier <+: s.payload) →
      i.bytes = jpegWith segments block hblock rest → i.Reports o (b.decoder p) →
      ∃ (s : TagStore) (q : Nat), (readTagStore (.text b.name) p (.file i)).result = .ok s ∧
        s.thumbnailLocation = .ok (q : Int) ∧ i.bytes[q]? = some (block.get ⟨o, ho⟩) ∧
        q = 2 + (joined segments).length + 10 + o) ∧
    (∀ o : Int, i.bytes.take 4 ∈ tiffStarts → i.Reports o (b.decoder p) →
      ∃ s, (readTagStore (.text b.name) p (.file i)).result = .ok s ∧
        s.thumbnailLocation = .ok o) := by
  constructor
  · intro segments block rest hblock o ho hquiet hfile hreports
    obtain ⟨before, hsplit, hlength, hlocate⟩ := locate_jpegWith hblock hquiet rest
    rw [← hfile] at hsplit hlocate
    have hne : i.bytes ≠ [] := by
      rw [hfile]
      simp [jpegWith, jpegStart]
    obtain ⟨s, hs, hlocation⟩ := thumbnailLocation_of_reports hne hreports
    refine ⟨s, o + before.length, hs, ?_, ?_, by rw [hlength, Nat.add_comm]⟩
    · rw [hlocation, hlocate]
      rfl
    · rw [hsplit, List.append_assoc, List.getElem?_append_right (Nat.le_add_left _ _),
        Nat.add_sub_cancel, List.getElem?_append_left ho, List.getElem?_eq_getElem ho]
      rfl
  · intro o htiff hreports
    have hne : i.bytes ≠ [] := by
      intro hnil
      rw [hnil] at htiff
      exact absurd htiff (by decide)
    obtain ⟨s, hs, hlocation⟩ := thumbnailLocation_of_reports hne hreports
    refine ⟨s, hs, ?_⟩
    rw [hlocation, locate, if_pos htiff]
    exact congrArg Except.ok (Int.add_zero o)

/-- A file with a thumbnail at an offset, as both decoders report it. -/
def fileWithThumbnail (bytes : List UInt8) (o : Int) : Image where
  bytes := bytes
  listing := .ok [("Image Make", .field ⟨0x010F, 2, .text "Maker"⟩),
    ("Thumbnail JPEGInterchangeFormat", .field ⟨0x0201, 4, .list [.int o]⟩)]
  directories := .ok (some ⟨[(0x010F, .text "Maker")], .ok [], .ok [(0x0201, .int o)]⟩)

theorem fileWithThumbnail_reports (bytes : List UInt8) (o : Int) (d : Decoder) :
    (fileWithThumbnail bytes o).Reports o d := by
  cases d with
  | listing =>
    refine ⟨_, rfl, ⟨[_], [], _, _, rfl, by decide, rfl, rfl, by simp⟩, ?_⟩
    intro key f hf _
    rw [List.mem_cons, List.mem_singleton] at hf
    rcases hf with h | h <;> cases h
    · exact ⟨_, rfl⟩
    · exact ⟨_, rfl⟩
  | directories =>
    refine ⟨⟨_, _, _⟩, List.cons_ne_nil _ _, rfl, ⟨[], _, [], rfl, rfl, by simp⟩, ?_⟩
    intro e he
    change e ∈ [((0x010F : Int), Datum.text "Maker"), (0x0201, .int o)] at he
    rw [List.mem_cons, List.mem_singleton] at he
    rcases he with rfl | rfl
    · exact ⟨_, rfl⟩
    · exact ⟨_, rfl⟩

open TiffHeader in
/-- A JFIF segment and an APP1 segment that lacks most of the identifier. -/
def quietSegments : List Segment :=
  [.ofPayload 0xE0 [0x4A, 0x46] (by decide) (by decide),
    .ofPayload app1 [0x45, 0x78] (by decide) (by decide)]

def smallBlock : List UInt8 := [0x49, 0x49, 0x2A, 0x00, 0x08, 0x00, 0xAB, 0x00]

def smallFile : List UInt8 :=
  TiffHeader.jpegWith quietSegments smallBlock (by decide) [0xFF, 0xD9]

theorem thumbnailLocation_absolute_small :
    (∃ (s : TagStore) (q : Nat), (readTagStore (.text "auto") ⟨.none, ["a.jpg"]⟩
        (.file (fileWithThumbnail smallFile 6))).result = .ok s ∧
        s.thumbnailLocation = .ok (q : Int) ∧ smallFile[q]? = some 0xAB ∧ q = 30) ∧
      ∃ s, (readTagStore (.text "exifread") ⟨.none, ["a.tif"]⟩
        (.file (fileWithThumbnail smallBlock 6))).result = .ok s ∧ s.thumbnailLocation = .ok 6 := by
  have hquiet : ∀ s ∈ quietSegments, s.marker = TiffHeader.app1 →
      ¬ TiffHeader.identifier <+: s.payload := by
    intro s hs _
    rw [quietSegments, List.mem_cons, List.mem_singleton] at hs
    rcases hs with rfl | rfl
    · decide
    · decide
  have hreports := fileWithThumbnail_reports
  exact ⟨(thumbnailLocation_absolute .auto ⟨.none, ["a.jpg"]⟩ (fileWithThumbnail smallFile 6)).1
      quietSegments smallBlock [0xFF, 0xD9] (by decide) 6 (by decide) hquiet rfl (hreports _ _ _),
    (thumbnailLocation_absolute (.fixed .listing) ⟨.none, ["a.tif"]⟩
      (fileWithThumbnail smallBlock 6)).2 6 (by decide) (hreports _ _ _)⟩

end Exif
