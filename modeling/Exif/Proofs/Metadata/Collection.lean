import Exif.Proofs.Metadata.Faults
import Exif.Proofs.Reading

/-! What the metadata of a picture come to. Some entries are kept, in their order; they are converted one
after the other, and the first that cannot be converted ends the reading. Otherwise there is a map of
all ids under which a kept entry has a value, in the order of the first such entries, with the values
of the last ones. Entries that are not kept do not matter. -/

namespace Exif

/-! ## Kept entries -/

theorem isSome_ofId?_iff {n : Int} : (Tag.ofId? n).isSome = true ↔ ∃ tag : Tag, n = tag.id := by
  simp only [Option.isSome_iff_exists, Tag.ofId?_eq_some_iff]

theorem any_thumbnailTags_iff {n : Int} :
    (Tag.ofId? n).any thumbnailTags.contains = true ↔ n = 0x0201 ∨ n = 0x0202 := by
  have hid (tag : Tag) : Tag.ofId? n = some tag ↔ n = tag.id := Tag.ofId?_eq_some_iff
  simp only [Option.any_eq_true, thumbnailTags, List.contains_iff_mem, List.mem_cons, List.not_mem_nil,
    or_false, hid]
  constructor
  · rintro ⟨tag, rfl, rfl | rfl⟩
    · exact Or.inl rfl
    · exact Or.inr rfl
  · rintro (rfl | rfl)
    · exact ⟨.thumbnailOffset, rfl, Or.inl rfl⟩
    · exact ⟨.thumbnailLength, rfl, Or.inr rfl⟩

namespace Listing

/-- A key begins with a word: it is the word, or a space comes next. -/
def BeginsWith (word key : String) : Prop := key = word ∨ ∃ rest, key = word ++ " " ++ rest

theorem directoryWord_eq_iff {word key : String} (h : ' ' ∉ word.toList) :
    directoryWord key = word ↔ BeginsWith word key := by
  rw [directoryWord, ← String.toList_inj, String.toList_ofList, Text.takeWhile_ne_eq_iff h, BeginsWith,
    String.toList_inj]
  refine or_congr_right ⟨?_, ?_⟩
  · rintro ⟨rest, hrest⟩
    refine ⟨String.ofList rest, String.toList_inj.1 ?_⟩
    simp [hrest]
  · rintro ⟨rest, rfl⟩
    exact ⟨rest.toList, by simp⟩

/-- The key of a field whose directory is read, with an id that is read from there. -/
def KeptUnder (key : String) (id : Int) : Prop :=
  (BeginsWith "Image" key ∨ BeginsWith "EXIF" key) ∧ (∃ tag : Tag, id = tag.id) ∨
    BeginsWith "Thumbnail" key ∧ (id = 0x0201 ∨ id = 0x0202)

theorem keeps_iff {key : String} {f : Field} : keeps key f = true ↔ KeptUnder key f.id := by
  have hkeeps : keeps key f = ((directoryWord key == "Image" || directoryWord key == "EXIF") &&
      (Tag.ofId? f.id).isSome || directoryWord key == "Thumbnail" &&
        (Tag.ofId? f.id).any thumbnailTags.contains) := by
    unfold keeps
    rcases Tag.ofId? f.id with _ | tag <;> simp
  rw [hkeeps, KeptUnder, ← any_thumbnailTags_iff, ← isSome_ofId?_iff, ← directoryWord_eq_iff (by decide),
    ← directoryWord_eq_iff (by decide), ← directoryWord_eq_iff (by decide)]
  simp only [Bool.or_eq_true, Bool.and_eq_true, beq_iff_eq]

def isKept (e : String × ListingEntry) : Bool := (finding? e).isSome

theorem finding?_eq_some_iff {e : String × ListingEntry} {f : Finding} : finding? e = some f ↔
    ∃ g, e.2 = .field g ∧ KeptUnder e.1 g.id ∧ f = (g.id, g.value?) := by
  obtain ⟨key, entry⟩ := e
  cases entry with
  | raw bytes => simp [finding?]
  | field g =>
    simp only [finding?, Option.ite_none_right_eq_some, keeps_iff, Option.some.injEq,
      ListingEntry.field.injEq, exists_eq_left', eq_comm (a := f)]

theorem findings_filter (l : Listing) : findings (l.filter isKept) = findings l := by
  rw [findings, List.filterMap_filter, findings]
  refine List.filterMap_congr fun e _ => ?_
  rcases he : finding? e with _ | f <;> simp [isKept, he]

end Listing

/-! ## What they come to -/

namespace Collected

theorem ofFindings_eq_error {fs : List Finding} {e : ConversionError} : ofFindings fs = .error e ↔
    ∃ before f after, fs = before ++ f :: after ∧ f.2 = .error e ∧ ∀ g ∈ before, ∃ v, g.2 = .ok v := by
  rw [ofFindings_eq, firstError_eq_error, head?_flatMap_errors]

theorem keys_ofFindings {fs : List Finding} {m : Collected} (h : ofFindings fs = .ok m) :
    m.keys = ((fs.filterMap Finding.reading?).map Prod.fst).eraseDups := by
  rw [ofFindings_eq] at h
  rw [← (firstError_eq_ok.1 h).2, OrderedMap.keys_ofList]

theorem readable_of_ofFindings {fs : List Finding} {m : Collected} (h : ofFindings fs = .ok m) :
    ∀ f ∈ fs, ∃ v, f.2 = .ok v := by
  intro f hf
  rw [ofFindings_eq] at h
  have hnone := List.flatMap_eq_nil_iff.1 (firstError_eq_ok.1 h).1 f hf
  exact head?_errors_eq_none.1 (by rw [hnone]; rfl)

/-- The last finding under an id that has a value. -/
theorem get?_ofFindings_eq_some {fs : List Finding} {m : Collected} (h : ofFindings fs = .ok m) {id : Int}
    {v : TagValue} : m.get? id = some v ↔
      ∃ before after, fs = before ++ (id, .ok (some v)) :: after ∧
        ∀ g ∈ after, g.1 = id → g.2 = .ok none := by
  have hread := readable_of_ofFindings h
  rw [get?_ofFindings h, List.findSome?_eq_some_iff]
  constructor
  · rintro ⟨after, f, before, hfs, hf, hafter⟩
    obtain rfl := Finding.eq_of_valueAt hf
    have hsplit : fs = before.reverse ++ (id, .ok (some v)) :: after.reverse := by
      rw [List.reverse_eq_append_iff] at hfs
      simpa using hfs
    refine ⟨before.reverse, after.reverse, hsplit, fun g hg hid => ?_⟩
    have hnone := hafter g (List.mem_reverse.1 hg)
    obtain ⟨w, hw⟩ := hread g (by rw [hsplit]; simp [List.mem_reverse.1 hg])
    rw [Finding.valueAt_of_ok hw, if_pos hid] at hnone
    rw [hw, hnone]
  · rintro ⟨before, after, hfs, hafter⟩
    refine ⟨after.reverse, (id, .ok (some v)), before.reverse, ?_, if_pos rfl, ?_⟩
    · rw [hfs]
      simp
    · intro g hg
      obtain ⟨w, hw⟩ := hread g (by rw [hfs]; simp [List.mem_reverse.1 hg])
      rw [Finding.valueAt_of_ok hw]
      by_cases hid : g.1 = id
      · rw [if_pos hid]
        exact Except.ok.inj (hw.symm.trans (hafter g (List.mem_reverse.1 hg) hid))
      · exact if_neg hid

structure Gathers (fs : List Finding) (r : Except CollectionError Collected) : Prop where
  /-- It fails as the first finding that could not be converted. -/
  fails : ∀ e, r = .error e ↔ ∃ before f after c, fs = before ++ f :: after ∧ f.2 = .error c ∧
    e = .conversion c ∧ ∀ g ∈ before, ∃ v, g.2 = .ok v
  total : (∀ f ∈ fs, ∃ v, f.2 = .ok v) → ∃ m, r = .ok m
  /-- The ids are those of the findings that have a value, in the order of the first ones. -/
  keys : ∀ m, r = .ok m → m.keys = ((fs.filterMap Finding.reading?).map Prod.fst).eraseDups
  /-- The value at an id is that of the last finding there that has one. -/
  values : ∀ m, r = .ok m → ∀ id v, m.get? id = some v ↔
    ∃ before after, fs = before ++ (id, .ok (some v)) :: after ∧ ∀ g ∈ after, g.1 = id → g.2 = .ok none

theorem gathers_ofFindings (fs : List Finding) : Gathers fs ((ofFindings fs).mapError .conversion) where
  fails e := by
    rw [mapError_eq_error]
    constructor
    · rintro ⟨c, hc, rfl⟩
      obtain ⟨before, f, after, hfs, hf, hbefore⟩ := ofFindings_eq_error.1 hc
      exact ⟨before, f, after, c, hfs, hf, rfl, hbefore⟩
    · rintro ⟨before, f, after, c, hfs, hf, rfl, hbefore⟩
      exact ⟨c, ofFindings_eq_error.2 ⟨before, f, after, hfs, hf, hbefore⟩, rfl⟩
  total h := by
    obtain ⟨m, hm⟩ := ofFindings_total h
    exact ⟨m, mapError_eq_ok.2 hm⟩
  keys m hm := keys_ofFindings (mapError_eq_ok.1 hm)
  values m hm _ _ := get?_ofFindings_eq_some (mapError_eq_ok.1 hm)

end Collected

theorem DirectoryLists.keeps_iff {e : DirectoryEntry} : keeps e = true ↔ ∃ tag : Tag, e.1 = tag.id :=
  isSome_ofId?_iff

theorem DirectoryLists.keepsThumbnail_iff {e : DirectoryEntry} :
    keepsThumbnail e = true ↔ e.1 = 0x0201 ∨ e.1 = 0x0202 := any_thumbnailTags_iff

def Image.HasDirectories (i : Image) (d : DirectoryLists) : Prop :=
  i.directories = .ok (some ⟨d.image, .ok d.exif, .ok d.thumbnail⟩) ∧ d.image ≠ []

theorem Image.collect_of_hasDirectories {i : Image} {d : DirectoryLists} (h : i.HasDirectories d) :
    i.collect .directories = (Collected.ofFindings d.findings).mapError .conversion :=
  collect_directories h.1 h.2

/-- A conversion that fails is told by the reading, with the decoder. -/
theorem result_of_conversion {b : Backend} {p : Path} {i : Image} {e : ConversionError}
    (hb : i.bytes ≠ []) (h : i.collect (b.decoder p) = .error (.conversion e)) :
    (readTagStore (.text b.name) p (.file i)).result =
      .error (.importFailed p (.conversion (b.decoder p) e)) := by
  rw [readTagStore_file hb, Image.store, h]
  rfl

/-- Both decoders' metadata come to what is kept of them. Of a listing these are the fields under a key
that begins with `Image` or `EXIF` and an id of the vocabulary, or with `Thumbnail` and one of two ids;
of directories, the entries of the first two with an id of the vocabulary, and those of the third with
one of the two ids. What is not kept may be changed, added or left out. -/
theorem gathers_kept_entries (i : Image) :
    -- a listing
    (∀ e f, Listing.finding? e = some f ↔
      ∃ g, e.2 = .field g ∧ Listing.KeptUnder e.1 g.id ∧ f = (g.id, g.value?)) ∧
    (∀ l, i.listing = .ok l → Collected.Gathers (l.filterMap Listing.finding?) (i.collect .listing) ∧
      ∀ (i' : Image) (l' : Listing), i'.listing = .ok l' →
        l.filter Listing.isKept = l'.filter Listing.isKept →
          i.collect .listing = i'.collect .listing) ∧
    -- directories
    (∀ e, DirectoryLists.keeps e = true ↔ ∃ tag : Tag, e.1 = tag.id) ∧
    (∀ e, DirectoryLists.keepsThumbnail e = true ↔ e.1 = 0x0201 ∨ e.1 = 0x0202) ∧
    (∀ d, i.HasDirectories d → Collected.Gathers ((d.image.filter DirectoryLists.keeps ++
        d.exif.filter DirectoryLists.keeps ++ d.thumbnail.filter DirectoryLists.keepsThumbnail).map
          fun e => (e.1, e.2.entryValue?)) (i.collect .directories) ∧
      ∀ (i' : Image) d', i'.HasDirectories d' → d.kept = d'.kept →
        i.collect .directories = i'.collect .directories) ∧
    -- the reading fails where a conversion does
    ∀ (b : Backend) p e, i.bytes ≠ [] → i.collect (b.decoder p) = .error (.conversion e) →
      (readTagStore (.text b.name) p (.file i)).result =
        .error (.importFailed p (.conversion (b.decoder p) e)) := by
  refine ⟨fun e f => Listing.finding?_eq_some_iff, ?_, fun e => DirectoryLists.keeps_iff,
    fun e => DirectoryLists.keepsThumbnail_iff, ?_, fun b p e => result_of_conversion⟩
  · intro l hl
    refine ⟨?_, fun i' l' hl' hkept => ?_⟩
    · rw [Image.collect_listing hl]
      exact Collected.gathers_ofFindings l.findings
    · rw [Image.collect_listing hl, Image.collect_listing hl', ← l.findings_filter, hkept,
        l'.findings_filter]
  · intro d hd
    refine ⟨?_, fun i' d' hd' hkept => ?_⟩
    · rw [Image.collect_of_hasDirectories hd]
      exact Collected.gathers_ofFindings d.findings
    · rw [Image.collect_of_hasDirectories hd, Image.collect_of_hasDirectories hd',
        DirectoryLists.findings, DirectoryLists.findings, hkept]

/-- A listing with a maker that is recorded again as a blank and again for the thumbnail, with bytes
that are no field and with a note that cannot be converted. -/
def makerAgainListing : Listing :=
  [("JPEGThumbnail", .raw [0xFF]), ("Thumbnail Make", .field ⟨0x010F, 2, .text "Other"⟩),
    ("Image Make", .field ⟨0x010F, 2, .text "Maker"⟩),
    ("MakerNote Quality", .field ⟨0x010F, 5, .list [.int 1]⟩),
    ("EXIF ISOSpeedRatings", .field ⟨0x8827, 3, .list [.int 100]⟩),
    ("EXIF Make", .field ⟨0x010F, 2, .text " "⟩),
    ("Thumbnail JPEGInterchangeFormat", .field ⟨0x0201, 4, .list [.int 8]⟩)]

def makerAgainLists : DirectoryLists where
  image := [(0x010F, .text "Maker"), (0x9999, .list [])]
  exif := [(0x8827, .int 100), (0x010F, .text " ")]
  thumbnail := [(0x010F, .text "Other"), (0x0201, .int 8)]

def makerAgain : Image where
  bytes := [0xFF, 0xD8]
  listing := .ok makerAgainListing
  directories := .ok (some ⟨makerAgainLists.image, .ok makerAgainLists.exif,
    .ok makerAgainLists.thumbnail⟩)

def makerOnly : Image where
  bytes := [0xFF, 0xD8]
  listing := .ok [("Image Make", .field ⟨0x010F, 2, .text "Maker"⟩),
    ("EXIF ISOSpeedRatings", .field ⟨0x8827, 3, .list [.int 100]⟩),
    ("EXIF Make", .field ⟨0x010F, 2, .text " "⟩),
    ("Thumbnail JPEGInterchangeFormat", .field ⟨0x0201, 4, .list [.int 8]⟩)]
  directories := .ok (some ⟨[(0x010F, .text "Maker")],
    .ok [(0x8827, .int 100), (0x010F, .text " ")], .ok [(0x0201, .int 8)]⟩)

def noRatio : Image where
  bytes := [0xFF, 0xD8]
  listing := .ok [("Image Make", .field ⟨0x010F, 2, .text "Maker"⟩),
    ("EXIF FNumber", .field ⟨0x829D, 5, .list [.int 2]⟩)]
  directories := .ok none

theorem gathers_kept_entries_makerAgain :
    (∃ m, makerAgain.collect .listing = .ok m ∧ m.keys = [0x010F, 0x8827, 0x0201] ∧
        m.get? 0x010F = some (.text "Maker")) ∧
      makerAgain.collect .listing = makerOnly.collect .listing ∧
      (∃ m, makerAgain.collect .directories = .ok m ∧ m.keys = [0x010F, 0x8827, 0x0201] ∧
        m.get? 0x010F = some (.text "Maker")) ∧
      makerAgain.collect .directories = makerOnly.collect .directories ∧
      (readTagStore (.text "exifread") ⟨.none, ["a.nef"]⟩ (.file noRatio)).result =
        .error (.importFailed ⟨.none, ["a.nef"]⟩ (.conversion .listing (.notARatio (.int 2)))) := by
  obtain ⟨-, hlisting, -, -, hdirectories, -⟩ := gathers_kept_entries makerAgain
  obtain ⟨-, -, -, -, -, hfails⟩ := gathers_kept_entries noRatio
  obtain ⟨hgathers, hsame⟩ := hlisting _ rfl
  obtain ⟨hgathers', hsame'⟩ := hdirectories makerAgainLists ⟨rfl, List.cons_ne_nil _ _⟩
  -- the maker that comes later is a blank
  have hblank : ∀ g ∈ ([(0x8827, .ok (some (.int 100))), (0x010F, .ok none),
      (0x0201, .ok (some (.int 8)))] : List Finding), g.1 = 0x010F → g.2 = .ok none := by
    intro g hg hid
    simp only [List.mem_cons, List.not_mem_nil, or_false] at hg
    rcases hg with rfl | rfl | rfl
    · exact absurd hid (by decide)
    · rfl
    · exact absurd hid (by decide)
  refine ⟨?_, hsame makerOnly _ rfl rfl, ?_, ?_, hfails (.fixed .listing) _ _ (by decide) rfl⟩
  · obtain ⟨m, hm⟩ : ∃ m, makerAgain.collect .listing = .ok m := ⟨_, rfl⟩
    exact ⟨m, hm, hgathers.keys m hm, (hgathers.values m hm _ _).2 ⟨[], _, rfl, hblank⟩⟩
  · obtain ⟨m, hm⟩ : ∃ m, makerAgain.collect .directories = .ok m := ⟨_, rfl⟩
    exact ⟨m, hm, hgathers'.keys m hm, (hgathers'.values m hm _ _).2 ⟨[], _, rfl, hblank⟩⟩
  · exact hsame' makerOnly ⟨_, _, _⟩ ⟨rfl, List.cons_ne_nil _ _⟩ rfl

end Exif
