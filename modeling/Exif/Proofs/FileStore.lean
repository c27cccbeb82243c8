import Exif.Proofs.Metadata.Collection
import Exif.Proofs.Text.Clean

/-! A store that was read from a file holds more than any store does. There is something in it; it is all
that was collected, in the same order, and nothing was dropped on the way; and its values are numbers and
clean texts. From the directory of the thumbnail come only the tags that say where the thumbnail lies. -/

namespace Exif

/-! ## Values -/

def Datum.IsPlain : Datum → Prop
  | int _ | double _ => True
  | text s => s ≠ "" ∧ Text.Trimmed Text.isBlank s.toList
  | _ => False

/-- The texts among the values of fields are clean ones. -/
theorem Field.clean_of_value? {f : Field} {t : String} (h : f.value? = .ok (some (.text t))) :
    ∃ s, Text.clean s = some t := by
  unfold value? at h
  split at h
  · obtain ⟨o, ho, hmap⟩ := map_eq_ok.1 h
    obtain ⟨t', rfl, ht⟩ := Option.map_eq_some_iff.1 hmap
    obtain rfl := TagValue.text.inj ht
    unfold Datum.cleanText at ho
    split at ho
    · exact nomatch ho
    · obtain ⟨s, -, hs⟩ := map_eq_ok.1 ho
      exact ⟨s, hs⟩
  · exact nomatch h
  · exact nomatch h
  · unfold Datum.ratioValue? at h
    split at h
    · split at h
      · exact nomatch h
      · obtain ⟨x, -, hx⟩ := map_eq_ok.1 h
        exact nomatch hx
    · exact nomatch h
  · obtain ⟨x, -, hx⟩ := map_eq_ok.1 h
    exact nomatch hx
  · obtain ⟨n, -, hn⟩ := map_eq_ok.1 h
    exact nomatch hn

theorem Datum.clean_of_scalarValue? {d : Datum} {t : String}
    (h : d.scalarValue? = .ok (some (.text t))) : ∃ s, Text.clean s = some t := by
  unfold scalarValue? at h
  split at h
  · next s =>
    obtain ⟨t', ht', ht⟩ := Option.map_eq_some_iff.1 (Except.ok.inj h)
    obtain rfl := TagValue.text.inj ht
    exact ⟨s, ht'⟩
  · split at h
    · exact nomatch h
    · obtain ⟨x, -, hx⟩ := map_eq_ok.1 h
      exact nomatch hx
  · exact nomatch h
  · exact nomatch h
  · exact nomatch h

theorem Datum.clean_of_entryValue? {d : Datum} {t : String}
    (h : d.entryValue? = .ok (some (.text t))) : ∃ s, Text.clean s = some t := by
  unfold entryValue? at h
  split at h
  · exact nomatch h
  · exact clean_of_scalarValue? h
  · exact clean_of_scalarValue? h

/-! ## Findings -/

structure Finding.Proper (f : Finding) : Prop where
  known : ∃ tag : Tag, f.1 = tag.id
  plain : ∀ v, f.2 = .ok (some v) → v.toDatum.IsPlain

theorem Finding.proper_of {f : Finding} (hid : ∃ tag : Tag, f.1 = tag.id)
    (htext : ∀ t, f.2 = .ok (some (.text t)) → ∃ s, Text.clean s = some t) : f.Proper where
  known := hid
  plain v hv := by
    cases v with
    | int _ | double _ => trivial
    | text t =>
      obtain ⟨s, hs⟩ := htext t hv
      exact Text.trimmed_clean hs

theorem mem_thumbnailTags_iff {tag : Tag} :
    tag ∈ thumbnailTags ↔ (tag.id : Int) = 0x0201 ∨ (tag.id : Int) = 0x0202 := by
  rw [← any_thumbnailTags_iff, Tag.ofId?_id, Option.any_some, List.contains_iff_mem]

theorem known_of_thumbnail {n : Int} (h : n = 0x0201 ∨ n = 0x0202) : ∃ tag : Tag, n = tag.id := by
  rcases h with rfl | rfl
  · exact ⟨.thumbnailOffset, rfl⟩
  · exact ⟨.thumbnailLength, rfl⟩

theorem Listing.proper_of_mem {l : Listing} {f : Finding} (h : f ∈ findings l) : f.Proper := by
  obtain ⟨e, -, he⟩ := List.mem_filterMap.1 h
  obtain ⟨g, -, hkept, rfl⟩ := finding?_eq_some_iff.1 he
  refine Finding.proper_of ?_ fun t => Field.clean_of_value?
  rcases hkept with ⟨-, hid⟩ | ⟨-, hid⟩
  · exact hid
  · exact known_of_thumbnail hid

theorem DirectoryLists.proper_of_mem {d : DirectoryLists} {f : Finding} (h : f ∈ d.findings) :
    f.Proper := by
  obtain ⟨e, he, rfl⟩ := List.mem_map.1 h
  refine Finding.proper_of ?_ fun t => Datum.clean_of_entryValue?
  rw [kept, List.mem_append, List.mem_append, List.mem_filter, List.mem_filter, List.mem_filter,
    keeps_iff, keepsThumbnail_iff] at he
  rcases he with (⟨-, hid⟩ | ⟨-, hid⟩) | ⟨-, hid⟩
  · exact hid
  · exact hid
  · exact known_of_thumbnail hid

theorem Directories.proper_of_mem {d : Directories} {f : Finding} (h : f ∈ d.findings) : f.Proper := by
  unfold findings at h
  split at h
  · exact nomatch h
  · exact DirectoryLists.proper_of_mem h

theorem Image.proper_of_mem {i : Image} {d : Decoder} {f : Finding} (h : f ∈ i.findings d) :
    f.Proper := by
  unfold findings at h
  split at h
  · exact Listing.proper_of_mem h
  · split at h
    · exact Directories.proper_of_mem h
    · exact nomatch h

theorem Image.proper_of_collect {i : Image} {d : Decoder} {values : Collected}
    (h : i.collect d = .ok values) :
    ∀ e ∈ values.entries, (∃ tag : Tag, e.1 = tag.id) ∧ e.2.toDatum.IsPlain := by
  intro e he
  have hget : values.get? e.1 = some e.2 := OrderedMap.get?_eq_some_iff.2 he
  have hproper := proper_of_mem (Collected.mem_findings (ofFindings_of_collect h) hget)
  exact ⟨hproper.known, hproper.plain e.2 rfl⟩

/-! ## The store of what was collected -/

/-- Making a store of values that stand under the ids of tags drops nothing. -/
theorem TagStore.entries_ofMap_toDatum {m : OrderedMap Int TagValue}
    (h : ∀ e ∈ m.entries, ∃ tag : Tag, e.1 = tag.id) (exifOffset : Int) (source : Option Path) :
    (ofMap (m.mapValues TagValue.toDatum) exifOffset source).tags.entries.map
      (fun e => ((e.1.id : Int), e.2)) = m.entries := by
  have hall : ∀ e ∈ m.entries, (qualify (e.1, e.2.toDatum)).map (fun q => ((q.1.id : Int), q.2)) =
      some e := by
    intro e he
    obtain ⟨tag, htag⟩ := h e he
    rw [qualify_eq_some_iff.2 ⟨htag, TagValue.ofDatum?_toDatum e.2⟩, Option.map_some, ← htag]
  rw [ofMap, OrderedMap.ofList_entries (nodup_qualify (m.mapValues TagValue.toDatum).nodup),
    OrderedMap.mapValues, List.filterMap_map, List.map_filterMap]
  exact (List.filterMap_congr hall).trans List.filterMap_some

/-! ## The directory of the thumbnail -/

def Listing.withoutThumbnail (l : Listing) : Listing :=
  l.filter fun e => directoryWord e.1 != "Thumbnail"

def Directories.withoutThumbnail (d : Directories) : Directories := { d with thumbnail := .ok [] }

def Image.withoutThumbnail (i : Image) : Image where
  bytes := i.bytes
  listing := i.listing.map Listing.withoutThumbnail
  directories := i.directories.map fun d => d.map Directories.withoutThumbnail

/-- Some findings are the same as others under all tags that are not read from the directory of the
thumbnail, and there are no new ones. -/
structure LacksThumbnail (fs' fs : List Finding) : Prop where
  sublist : fs'.Sublist fs
  others : ∀ tag ∉ thumbnailTags, fs'.filter (fun f => f.1 = (tag.id : Int)) =
    fs.filter fun f => f.1 = (tag.id : Int)

theorem LacksThumbnail.refl (fs : List Finding) : LacksThumbnail fs fs where
  sublist := .refl fs
  others _ _ := rfl

/-- Under a key of the directory of the thumbnail no other tag is read. -/
theorem Listing.thumbnail_of_finding? {e : String × ListingEntry} {f : Finding}
    (h : finding? e = some f) (hword : directoryWord e.1 = "Thumbnail") : f.1 = 0x0201 ∨ f.1 = 0x0202 := by
  obtain ⟨g, -, hkept, rfl⟩ := finding?_eq_some_iff.1 h
  rw [KeptUnder, ← directoryWord_eq_iff (by decide), ← directoryWord_eq_iff (by decide), hword] at hkept
  rcases hkept with ⟨hother | hother, -⟩ | ⟨-, hid⟩
  · exact absurd hother (by decide)
  · exact absurd hother (by decide)
  · exact hid

theorem Listing.findings_withoutThumbnail (l : Listing) :
    LacksThumbnail (findings l.withoutThumbnail) (findings l) where
  sublist := List.filter_sublist.filterMap finding?
  others tag htag := by
    rw [findings, findings, withoutThumbnail, List.filterMap_filter, List.filter_filterMap,
      List.filter_filterMap]
    refine List.filterMap_congr fun e _ => ?_
    by_cases hword : directoryWord e.1 = "Thumbnail"
    · rcases hf : finding? e with _ | f
      · simp
      · have hne : f.1 ≠ tag.id := by
          intro hid
          apply htag
          rw [mem_thumbnailTags_iff, ← hid]
          exact thumbnail_of_finding? hf hword
        simp [hword, Option.filter, hne]
    · simp [hword]

@[simp] theorem Directories.image_withoutThumbnail (d : Directories) :
    d.withoutThumbnail.image = d.image := rfl

theorem Directories.findings_withoutThumbnail (d : Directories) :
    LacksThumbnail d.withoutThumbnail.findings d.findings := by
  unfold findings
  rw [image_withoutThumbnail]
  by_cases hempty : d.image.isEmpty = true
  · rw [if_pos hempty, if_pos hempty]
    exact .refl []
  · rw [if_neg hempty, if_neg hempty]
    have hsplit : d.lists.findings = d.withoutThumbnail.lists.findings ++
        (d.lists.thumbnail.filter DirectoryLists.keepsThumbnail).map DirectoryLists.finding := by
      simp [DirectoryLists.findings, DirectoryLists.kept, lists, withoutThumbnail, Except.toOption]
    rw [hsplit]
    refine ⟨List.sublist_append_left _ _, fun tag htag => ?_⟩
    have hnone : ((d.lists.thumbnail.filter DirectoryLists.keepsThumbnail).map
        DirectoryLists.finding).filter (fun f => f.1 = (tag.id : Int)) = [] := by
      rw [List.filter_eq_nil_iff]
      intro f hf
      obtain ⟨e, he, rfl⟩ := List.mem_map.1 hf
      have hid := DirectoryLists.keepsThumbnail_iff.1 (List.mem_filter.1 he).2
      rw [decide_eq_true_eq]
      intro heq
      apply htag
      rw [mem_thumbnailTags_iff, ← heq]
      exact hid
    rw [List.filter_append, hnone, List.append_nil]

theorem Image.findings_withoutThumbnail (i : Image) (d : Decoder) :
    LacksThumbnail (i.withoutThumbnail.findings d) (i.findings d) := by
  unfold findings withoutThumbnail
  cases d with
  | listing =>
    rcases i.listing with e | l
    · exact .refl _
    · exact l.findings_withoutThumbnail
  | directories =>
    rcases i.directories with e | _ | d
    · exact .refl _
    · exact .refl _
    · exact d.findings_withoutThumbnail

theorem Directories.faults_withoutThumbnail {d : Directories} (h : d.faults = []) :
    d.withoutThumbnail.faults = [] := by
  unfold faults at *
  rw [image_withoutThumbnail]
  by_cases hempty : d.image.isEmpty = true
  · exact if_pos hempty
  · rw [if_neg hempty, List.append_eq_nil_iff] at h ⊢
    exact ⟨h.1, rfl⟩

theorem Image.decoderFaults_withoutThumbnail {i : Image} {d : Decoder} (h : i.decoderFaults d = []) :
    i.withoutThumbnail.decoderFaults d = [] := by
  obtain ⟨bytes, listing, directories⟩ := i
  cases d with
  | listing => exact (errors_map _ listing).trans h
  | directories =>
    rcases directories with e | _ | d
    · exact h
    · exact h
    · exact Directories.faults_withoutThumbnail h

theorem Image.collect_withoutThumbnail {i : Image} {d : Decoder} {values : Collected}
    (h : i.collect d = .ok values) :
    ∃ values', i.withoutThumbnail.collect d = .ok values' ∧
      ∀ tag ∉ thumbnailTags, values'.get? tag.id = values.get? tag.id := by
  have hlacks := i.findings_withoutThumbnail d
  have hok : i.withoutThumbnail.faults d = [] := by
    rw [collect_eq] at h
    have hnone := (firstError_eq_ok.1 h).1
    rw [faults, List.append_eq_nil_iff, List.map_eq_nil_iff, List.map_eq_nil_iff,
      List.flatMap_eq_nil_iff] at hnone ⊢
    exact ⟨decoderFaults_withoutThumbnail hnone.1, fun f hf => hnone.2 f (hlacks.sublist.subset hf)⟩
  have h' : i.withoutThumbnail.collect d = .ok (.ofList (i.withoutThumbnail.readings d)) := by
    rw [collect_eq, hok]
    rfl
  refine ⟨_, h', fun tag htag => ?_⟩
  rw [Collected.get?_ofFindings_filter (ofFindings_of_collect h'), hlacks.others tag htag,
    ← Collected.get?_ofFindings_filter (ofFindings_of_collect h)]

/-- A store that was read from a file is not empty. It is all that the decoder of the backend has
collected of the file, id by id and value by value; the ids are those of tags, and the values are
integers, doubles and clean texts. Were there nothing in the directory of the thumbnail, all tags but two
would have the same values. -/
theorem store_of_file {backend : Datum} {p : Path} {state : PathState Image} {s : TagStore}
    (h : (readTagStore backend p state).result = .ok s) :
    s.tags.entries ≠ [] ∧
      ∃ (b : Backend) (i : Image) (values : Collected), backend = .text b.name ∧ state = .file i ∧
        i.collect (b.decoder p) = .ok values ∧
        -- nothing is dropped
        s = .ofMap (values.mapValues TagValue.toDatum) (TiffHeader.locate i.bytes) (some p) ∧
        s.tags.entries.map (fun e => ((e.1.id : Int), e.2)) = values.entries ∧
        (∀ e ∈ values.entries, (∃ tag : Tag, e.1 = tag.id) ∧ e.2.toDatum.IsPlain) ∧
        -- the directory of the thumbnail
        ∃ values', i.withoutThumbnail.collect (b.decoder p) = .ok values' ∧
          ∀ tag, tag ≠ .thumbnailOffset → tag ≠ .thumbnailLength →
            s.tags.get? tag = values'.get? tag.id := by
  obtain ⟨b, i, rfl, rfl, hstore⟩ := file_of_readTagStore h
  obtain ⟨values, hcollect, hne, rfl⟩ := Image.collect_of_store hstore
  have hproper := Image.proper_of_collect hcollect
  have hentries := TagStore.entries_ofMap_toDatum (fun e he => (hproper e he).1)
    (TiffHeader.locate i.bytes) (some p)
  obtain ⟨values', hcollect', hothers⟩ := Image.collect_withoutThumbnail hcollect
  refine ⟨?_, b, i, values, rfl, rfl, hcollect, rfl, hentries, hproper, values', hcollect', ?_⟩
  · intro hnil
    apply hne
    rw [← hentries]
    exact List.map_eq_nil_iff.2 hnil
  · intro tag hoffset hlength
    rw [i.get?_storeOf, hothers tag (by simp [thumbnailTags, hoffset, hlength])]

/-- A picture with a padded maker and a truth value, of which the directory of the thumbnail has a maker
of its own and the place of the thumbnail. -/
def paddedPicture : Image where
  bytes := [0xFF, 0xD8]
  listing := .ok []
  directories := .ok (some ⟨[(0x010F, .text " Maker  "), (0x0112, .bool true)], .ok [],
    .ok [(0x010F, .text "Other"), (0x0201, .int 8)]⟩)

theorem store_of_file_padded :
    ∃ s values', (readTagStore (.text "pillow") ⟨.none, ["a.jpg"]⟩ (.file paddedPicture)).result = .ok s ∧
      s.tags.entries = [(.make, .text "Maker"), (.thumbnailOffset, .int 8)] ∧
      paddedPicture.withoutThumbnail.collect .directories = .ok values' ∧
      values'.get? 0x010F = some (.text "Maker") ∧ values'.get? 0x0201 = none := by
  obtain ⟨s, hs⟩ : ∃ s, (readTagStore (.text "pillow") ⟨.none, ["a.jpg"]⟩ (.file paddedPicture)).result =
      .ok s := ⟨_, rfl⟩
  obtain ⟨-, b, i, values, hb, hi, hcollect, rfl, -, -, values', hcollect', hothers⟩ := store_of_file hs
  obtain rfl := PathState.file.inj hi
  obtain rfl : Backend.fixed .directories = b :=
    Option.some.inj ((Backend.ofDatum?_name _).symm.trans (Backend.ofDatum?_eq_some_iff.2 hb))
  obtain rfl := Except.ok.inj hcollect
  obtain rfl := Except.ok.inj hcollect'
  exact ⟨_, _, hs, rfl, hcollect', (hothers .make (by decide) (by decide)).symm.trans rfl, rfl⟩

end Exif
