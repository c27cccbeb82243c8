import Exif.Proofs.FileFormat
import Exif.Proofs.Reading

/-! The automatic choice of a decoder is by the name of the file alone, and a reading with it is in all
respects the reading with the decoder that is chosen. -/

namespace Exif

namespace Backend

def listingWords : List String :=
  ["cr2", "nef", "arw", "dng", "orf", "rw2", "tif", "tiff", "heic", "heif"]

/-- A name with one of these extensions, in capital or small ASCII letters, and with something before its
dot. -/
def NeedsListing (name : String) : Prop :=
  ∃ stem ext, name = stem ++ "." ++ ext ∧ stem ≠ "" ∧
    ∃ word ∈ listingWords, ext.toList.map Char.toLower = word.toList

theorem listing_words : ∀ e ∈ FileFormat.words,
    (e.2.isRaw || e.2 = .heic || e.2 = .heif) = true ↔ e.1 ∈ listingWords := by decide

theorem listingWords_subset : ∀ word ∈ listingWords, word ∈ FileFormat.words.map Prod.fst := by decide

theorem decoder_auto_eq_listing_iff {p : Path} : auto.decoder p = .listing ↔ NeedsListing p.name := by
  have hdecoder : auto.decoder p = .listing ↔ ((FileFormat.ofName p.name).isRaw ||
      FileFormat.ofName p.name = .heic || FileFormat.ofName p.name = .heif) = true := by
    rw [decoder, FileFormat.ofPath]
    split
    · next h => exact iff_of_true rfl h
    · next h => exact iff_of_false Decoder.noConfusion h
  generalize hformat : FileFormat.ofName p.name = f at hdecoder
  rw [hdecoder]
  constructor
  · intro hneeds
    have hknown : f ≠ .unknown := by
      rintro rfl
      exact absurd hneeds (by decide)
    obtain ⟨stem, ext, word, hname, hstem, hmem, hmap⟩ := (FileFormat.ofName_eq_iff hknown).1 hformat
    exact ⟨stem, ext, hname, hstem, word, (listing_words _ hmem).1 hneeds, hmap⟩
  · rintro ⟨stem, ext, hname, hstem, word, hword, hmap⟩
    obtain ⟨⟨word', g⟩, hmem, rfl⟩ := List.mem_map.1 (listingWords_subset word hword)
    have hneeds : (g.isRaw || g = .heic || g = .heif) = true := (listing_words _ hmem).2 hword
    have hknown : g ≠ .unknown := by
      rintro rfl
      exact absurd hneeds (by decide)
    rw [← hformat, (FileFormat.ofName_eq_iff hknown).2 ⟨stem, ext, word', hname, hstem, hmem, hmap⟩]
    exact hneeds

theorem decoder_auto_eq_directories_iff {p : Path} :
    auto.decoder p = .directories ↔ ¬ NeedsListing p.name := by
  rw [← decoder_auto_eq_listing_iff]
  cases auto.decoder p <;> simp

end Backend

/-- Backends with the same decoder for a path read its file alike. -/
theorem readTagStore_congr (b b' : Backend) {p : Path} (h : b.decoder p = b'.decoder p)
    (state : PathState Image) :
    readTagStore (.text b.name) p state = readTagStore (.text b'.name) p state := by
  simp only [readTagStore, Backend.ofDatum?_name, h]

/-- The automatic choice is one of the two decoders, by the extension of the last component of the path.
The reading is that with this decoder: it calls the same, and has the same store or the same error. -/
theorem readTagStore_auto (p : Path) (state : PathState Image) :
    (Backend.NeedsListing p.name →
      readTagStore (.text "auto") p state = readTagStore (.text "exifread") p state) ∧
    (¬ Backend.NeedsListing p.name →
      readTagStore (.text "auto") p state = readTagStore (.text "pillow") p state) := by
  constructor
  · intro hneeds
    exact readTagStore_congr .auto (.fixed .listing) (Backend.decoder_auto_eq_listing_iff.2 hneeds) state
  · intro hneeds
    exact readTagStore_congr .auto (.fixed .directories)
      (Backend.decoder_auto_eq_directories_iff.2 hneeds) state

def unreadablePicture : Image where
  bytes := [0x00]
  listing := .error (.broken "ExifError" "no header")
  directories := .error (.broken "UnidentifiedImageError" "no picture")

/-- A hidden file has nothing before the dot. -/
theorem readTagStore_auto_hidden :
    Backend.NeedsListing "a.b.HeiC" ∧ ¬ Backend.NeedsListing ".cr2" ∧
      readTagStore (.text "auto") ⟨.slash, ["x.jpg", "a.b.HeiC"]⟩ (.file unreadablePicture) =
        readTagStore (.text "exifread") ⟨.slash, ["x.jpg", "a.b.HeiC"]⟩ (.file unreadablePicture) ∧
      readTagStore (.text "auto") ⟨.none, [".cr2"]⟩ (.file unreadablePicture) =
        readTagStore (.text "pillow") ⟨.none, [".cr2"]⟩ (.file unreadablePicture) := by
  have hlisting : Backend.NeedsListing "a.b.HeiC" :=
    ⟨"a.b", "HeiC", by decide, by decide, "heic", by decide, by decide⟩
  have hdirectories : ¬ Backend.NeedsListing ".cr2" :=
    Backend.decoder_auto_eq_directories_iff (p := ⟨.none, [".cr2"]⟩).1 (by decide)
  exact ⟨hlisting, hdirectories, (readTagStore_auto ⟨.slash, ["x.jpg", "a.b.HeiC"]⟩ _).1 hlisting,
    (readTagStore_auto ⟨.none, [".cr2"]⟩ _).2 hdirectories⟩

end Exif
