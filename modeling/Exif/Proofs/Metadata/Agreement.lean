import Exif.Proofs.Double.Finite
import Exif.Proofs.Metadata.Findings
import Exif.Proofs.Reading

/-! Recorded metadata reach the library as a listing of fields or as three directories, depending on
the decoder. Both forms of the same metadata give the same findings, entry by entry, and so the same
values and the same store. -/

namespace Exif

/-! ## Metadata and their two forms -/

/-- A ratio of 32-bit numbers as it is recorded, not reduced. -/
structure Ratio where
  num : Int
  den : Nat
  num_lt : num.natAbs < 2 ^ 32
  den_lt : den < 2 ^ 32

inductive IntegerType
  | short
  | long
  | signedShort
  | signedLong

inductive RatioType
  | ratio
  | signedRatio

inductive FloatingType
  | float
  | double

inductive Contents
  | ascii (text : String)
  | undefined (bytes : List UInt8)
  | integers (type : IntegerType) (values : List Int)
  | ratios (type : RatioType) (values : List Ratio)
  | doubles (type : FloatingType) (values : List Float)

namespace Contents

def code : Contents → Int
  | ascii _ => 2
  | integers .short _ => 3
  | integers .long _ => 4
  | ratios .ratio _ => 5
  | undefined _ => 7
  | integers .signedShort _ => 8
  | integers .signedLong _ => 9
  | ratios .signedRatio _ => 10
  | doubles .float _ => 11
  | doubles .double _ => 12

def listed : Contents → Datum
  | ascii text => .text text
  | undefined bytes => .list (bytes.map fun b => .int b.toNat)
  | integers _ values => .list (values.map .int)
  | ratios _ values => .list (values.map fun r => .ratio r.num r.den)
  | doubles _ values => .list (values.map .double)

def scalarOrTuple : List Datum → Datum
  | [d] => d
  | ds => .tuple ds

def entered : Contents → Datum
  | ascii text => .text text
  | undefined bytes => .bytes bytes
  | integers _ values => scalarOrTuple (values.map .int)
  | ratios _ values => scalarOrTuple (values.map fun r => .rational r.num r.den)
  | doubles _ values => scalarOrTuple (values.map .double)

end Contents

structure MetadataEntry where
  name : String
  id : Int
  contents : Contents

structure Metadata where
  image : List MetadataEntry
  exif : List MetadataEntry
  thumbnail : List MetadataEntry

namespace MetadataEntry

def listed (word : String) (e : MetadataEntry) : String × ListingEntry :=
  (word ++ " " ++ e.name, .field ⟨e.id, e.contents.code, e.contents.listed⟩)

def entered (e : MetadataEntry) : DirectoryEntry := (e.id, e.contents.entered)

end MetadataEntry

namespace Metadata

def listing (m : Metadata) : Listing :=
  m.image.map (·.listed "Image") ++ m.exif.map (·.listed "EXIF") ++
    m.thumbnail.map (·.listed "Thumbnail")

def lists (m : Metadata) : DirectoryLists :=
  ⟨m.image.map (·.entered), m.exif.map (·.entered), m.thumbnail.map (·.entered)⟩

def file (m : Metadata) (bytes : List UInt8) : Image :=
  ⟨bytes, .ok m.listing, .ok (some ⟨m.lists.image, .ok m.lists.exif, .ok m.lists.thumbnail⟩)⟩

end Metadata

/-! ## Values -/

theorem quotient?_zero {den : Int} (h : 0 < den) : Double.quotient? 0 den = some 0 := by
  have hq : Double.quotient 0 den = 0 := by
    have hd : 0 < den.natAbs := by omega
    have hs : (decide ((0 : Int) < 0) != decide (den < 0)) = false := by
      simp only [bne_eq_false_iff_eq, decide_eq_decide]
      omega
    rw [Double.quotient, hs, dif_pos hd]
    rfl
  rw [Double.quotient?, hq]
  rfl

/-- A recorded ratio and the rational made of it have the same value. -/
theorem ratio_agrees (r : Ratio) :
    ∃ v, (Datum.ratio r.num r.den).ratioValue? = .ok v ∧
      (Datum.rational r.num r.den).scalarValue? = .ok v := by
  by_cases hd : (r.den : Int) = 0
  · exact ⟨none, by rw [Datum.ratioValue?, if_pos hd], by rw [Datum.scalarValue?, if_pos hd]⟩
  · have hq : Double.quotient? r.num r.den = some (Double.quotient r.num r.den) :=
      Double.quotient?_eq (by decide) r.num_lt hd
    refine ⟨some (.double (Double.quotient r.num r.den)), ?_, ?_⟩
    · rw [Datum.ratioValue?, if_neg hd, Datum.divideIntegers, hq]
      rfl
    · rw [Datum.scalarValue?, if_neg hd, Datum.toDouble, if_neg hd]
      by_cases hn : r.num = 0
      · -- only a rational turns a zero numerator into zero without dividing
        rw [hn, quotient?_zero (by omega)] at hq
        rw [if_pos hn, hn, ← Option.some.inj hq]
        rfl
      · rw [if_neg hn, Datum.divideIntegers, hq]
        rfl

theorem entryValue?_scalarOrTuple (d : Datum) (ds : List Datum)
    (h : d.entryValue? = d.scalarValue?) :
    (Contents.scalarOrTuple (d :: ds)).entryValue? = d.scalarValue? := by
  cases ds with
  | nil => exact h
  | cons _ _ => rfl

/-- Recorded contents can be read, and both forms give the same value. -/
theorem contents_agree (c : Contents) (id : Int) :
    ∃ v, (Field.mk id c.code c.listed).value? = .ok v ∧ c.entered.entryValue? = .ok v := by
  match c with
  | .ascii text => exact ⟨(Text.clean text).map .text, rfl, rfl⟩
  | .undefined bytes => exact ⟨none, rfl, rfl⟩
  | .integers type [] => exact ⟨none, by cases type <;> rfl, rfl⟩
  | .integers type (n :: ns) =>
    exact ⟨some (.int n), by cases type <;> rfl, entryValue?_scalarOrTuple (.int n) _ rfl⟩
  | .ratios type [] => exact ⟨none, by cases type <;> rfl, rfl⟩
  | .ratios type (r :: rs) =>
    obtain ⟨v, hl, he⟩ := ratio_agrees r
    refine ⟨v, ?_, (entryValue?_scalarOrTuple (.rational r.num r.den) _ rfl).trans he⟩
    cases type <;> exact hl
  | .doubles type [] => exact ⟨none, by cases type <;> rfl, rfl⟩
  | .doubles type (x :: xs) =>
    exact ⟨some (.double x), by cases type <;> rfl, entryValue?_scalarOrTuple (.double x) _ rfl⟩

/-! ## Findings -/

theorem finding?_listed {word : String} (h : ' ' ∉ word.toList) (e : MetadataEntry)
    (keeps : Tag → Bool)
    (hk : ∀ tag, (word == "Image" || word == "EXIF" ||
      (word == "Thumbnail" && thumbnailTags.contains tag)) = keeps tag) :
    Listing.finding? (e.listed word) =
      if (Tag.ofId? e.entered.1).any keeps then some (DirectoryLists.finding e.entered) else none := by
  obtain ⟨v, hl, he⟩ := contents_agree e.contents e.id
  have hkeeps : Listing.keeps (word ++ " " ++ e.name) ⟨e.id, e.contents.code, e.contents.listed⟩ =
      (Tag.ofId? e.id).any keeps := by
    rw [Listing.keeps, Listing.directoryWord_append h]
    cases Tag.ofId? e.id with
    | none => rfl
    | some tag => exact hk tag
  rw [MetadataEntry.listed, Listing.finding?, hkeeps, hl, DirectoryLists.finding,
    MetadataEntry.entered, he]

theorem findings_listed (word : String) (h : ' ' ∉ word.toList) (es : List MetadataEntry)
    (keeps : Tag → Bool)
    (hk : ∀ tag, (word == "Image" || word == "EXIF" ||
      (word == "Thumbnail" && thumbnailTags.contains tag)) = keeps tag) :
    Listing.findings (es.map (·.listed word)) =
      ((es.map (·.entered)).filter fun e => (Tag.ofId? e.1).any keeps).map DirectoryLists.finding := by
  induction es with
  | nil => rfl
  | cons e es ih =>
    rw [Listing.findings] at ih ⊢
    rw [List.map_cons, List.filterMap_cons, finding?_listed h e keeps hk, List.map_cons,
      List.filter_cons, ih]
    by_cases hkept : (Tag.ofId? e.entered.1).any keeps = true
    · rw [if_pos hkept, if_pos hkept]
      rfl
    · rw [if_neg hkept, if_neg hkept]

theorem findings_agree (m : Metadata) : Listing.findings m.listing = m.lists.findings := by
  have himage := findings_listed "Image" (by decide) m.image (fun _ => true) (by simp)
  have hexif := findings_listed "EXIF" (by decide) m.exif (fun _ => true) (by simp)
  have hthumbnail := findings_listed "Thumbnail" (by decide) m.thumbnail
    thumbnailTags.contains (by simp)
  rw [Listing.findings] at himage hexif hthumbnail
  rw [Metadata.listing, Listing.findings, List.filterMap_append, List.filterMap_append, himage, hexif,
    hthumbnail, DirectoryLists.findings, DirectoryLists.kept, List.map_append, List.map_append]
  rfl

/-! ## Values and stores of a file -/

theorem findings_total (m : Metadata) : ∃ values, Collected.ofFindings m.lists.findings = .ok values := by
  apply Collected.ofFindings_total
  intro f hf
  obtain ⟨e, he, rfl⟩ := List.mem_map.1 hf
  obtain ⟨es, hes, hsource⟩ := DirectoryLists.mem_kept he
  have hentry : ∃ entry : MetadataEntry, entry.entered = e := by
    rcases hsource with rfl | rfl | rfl <;> obtain ⟨entry, -, h⟩ := List.mem_map.1 hes <;>
      exact ⟨entry, h⟩
  obtain ⟨entry, rfl⟩ := hentry
  obtain ⟨v, -, hv⟩ := contents_agree entry.contents entry.id
  exact ⟨v, hv⟩

theorem collect_file (m : Metadata) (h : m.image ≠ []) (bytes : List UInt8) :
    ∃ values, ∀ d : Decoder, (m.file bytes).collect d = .ok values := by
  obtain ⟨values, hv⟩ := findings_total m
  refine ⟨values, fun d => ?_⟩
  cases d with
  | listing =>
    rw [Image.collect_listing (l := m.listing) rfl, findings_agree, hv]
    rfl
  | directories =>
    have hne : m.lists.image ≠ [] := fun hnil => h (List.map_eq_nil_iff.1 hnil)
    rw [Image.collect_directories (d := m.lists) rfl hne, hv]
    rfl

/-- A file of which both decoders give the same metadata has the same values in the same order with
both, and every backend makes the same store of them, or reports that there are no data. -/
theorem backends_agree (m : Metadata) (h : m.image ≠ []) (bytes : List UInt8) (hb : bytes ≠ [])
    (p : Path) :
    (∃ values, ∀ d : Decoder, (m.file bytes).collect d = .ok values) ∧
      ∃ result, (∀ b : Backend, (readTagStore (.text b.name) p (.file (m.file bytes))).result = result) ∧
        (result = .error (.importFailed p .noData) ∨ ∃ s, result = .ok s) := by
  obtain ⟨values, hv⟩ := collect_file m h bytes
  refine ⟨⟨values, hv⟩, ?_⟩
  by_cases hnil : values.entries = []
  · refine ⟨.error (.importFailed p .noData), fun b => ?_, Or.inl rfl⟩
    rw [readTagStore_file hb, Image.store_of_collect (hv _), if_pos hnil]
    rfl
  · refine ⟨.ok ((m.file bytes).storeOf p values), fun b => ?_, Or.inr ⟨_, rfl⟩⟩
    rw [readTagStore_file hb, Image.store_of_collect (hv _), if_neg hnil]
    rfl

/-- The later `Make` is blank and the later `FNumber` has no denominator, so the first ones stay. -/
def repeatedMetadata : Metadata where
  image := [⟨"Make", 0x010F, .ascii "Maker"⟩,
    ⟨"FNumber", 0x829D, .ratios .ratio [⟨28, 10, by decide, by decide⟩]⟩]
  exif := [⟨"Make", 0x010F, .ascii "  "⟩,
    ⟨"FNumber", 0x829D, .ratios .ratio [⟨4, 0, by decide, by decide⟩]⟩]
  thumbnail := [⟨"JPEGInterchangeFormat", 0x0201, .integers .long [512]⟩]

theorem backends_agree_repeated :
    repeatedMetadata.image ≠ [] ∧ [0xFF, 0xD8] ≠ ([] : List UInt8) ∧
      (∃ values, ∀ d : Decoder, (repeatedMetadata.file [0xFF, 0xD8]).collect d = .ok values) ∧
      ∃ result, (∀ b : Backend, (readTagStore (.text b.name) ⟨.none, ["a.jpg"]⟩
          (.file (repeatedMetadata.file [0xFF, 0xD8]))).result = result) ∧
        (result = .error (.importFailed ⟨.none, ["a.jpg"]⟩ .noData) ∨ ∃ s, result = .ok s) := by
  have hi : repeatedMetadata.image ≠ [] := List.cons_ne_nil _ _
  have hb : [0xFF, 0xD8] ≠ ([] : List UInt8) := List.cons_ne_nil _ _
  exact ⟨hi, hb, backends_agree repeatedMetadata hi [0xFF, 0xD8] hb ⟨.none, ["a.jpg"]⟩⟩

end Exif
