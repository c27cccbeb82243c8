import Exif.Proofs.TagStore
import Mathlib.Data.List.Nodup
import Mathlib.Data.List.Perm.Subperm

/-! What a store is made of. The entries of the map that qualify are kept as they are, in their order; the
number of tags, the tags in turn, the questions whether a tag or an id is there and the labelled values
all tell of these entries. A store can be made again of its entries, and of its labelled values as
no two tags share a label. What does not qualify can come and go. -/

namespace Exif

/-! ## Entries that qualify -/

/-- Different things are found under different keys. -/
theorem injective_of_found {α β : Type} {key : α → β} {find? : β → Option α}
    (h : ∀ a, find? (key a) = some a) : Function.Injective key := by
  intro a b hkey
  have hfound := congrArg find? hkey
  rw [h, h] at hfound
  exact Option.some.inj hfound

/-- A datum that a tag can hold: an integer, a double or a text, but no truth value. -/
def Datum.isValue : Datum → Bool
  | .int _ | .double _ | .text _ => true
  | _ => false

namespace TagValue

theorem isValue_iff {d : Datum} : d.isValue = true ↔ ∃ v : TagValue, d = v.toDatum := by
  constructor
  · intro h
    cases d with
    | int n => exact ⟨.int n, rfl⟩
    | double x => exact ⟨.double x, rfl⟩
    | text t => exact ⟨.text t, rfl⟩
    | none | bool | bytes | list | tuple | ratio | rational | record => exact nomatch h
  · rintro ⟨v, rfl⟩
    cases v <;> rfl

theorem toDatum_injective : Function.Injective toDatum := injective_of_found ofDatum?_toDatum

theorem ofDatum?_eq_some_iff {d : Datum} {v : TagValue} : ofDatum? d = some v ↔ d = v.toDatum := by
  refine ⟨fun h => ?_, fun h => by rw [h, ofDatum?_toDatum]⟩
  cases d with
  | int | double | text =>
    obtain rfl := Option.some.inj h
    rfl
  | none | bool | bytes | list | tuple | ratio | rational | record => exact nomatch h

end TagValue

namespace Tag

def ids : List Int := all.map fun tag => (tag.id : Int)

theorem mem_ids_iff {n : Int} : n ∈ ids ↔ ∃ tag : Tag, n = tag.id := by
  simp only [ids, List.mem_map, mem_all, true_and, eq_comm]

theorem id_injective : Function.Injective fun tag : Tag => (tag.id : Int) := injective_of_found ofId?_id

def ofLabel? (l : String) : Option Tag := all.find? fun tag => tag.label = l

theorem ofLabel?_label (tag : Tag) : ofLabel? tag.label = some tag := by cases tag <;> decide

theorem label_injective : Function.Injective label := injective_of_found ofLabel?_label

end Tag

namespace TagStore

/-- The id of an entry is in the vocabulary, and its datum is one that a tag can hold. -/
def qualifies (e : Int × Datum) : Bool := decide (e.1 ∈ Tag.ids) && e.2.isValue

def entry (p : Tag × TagValue) : Int × Datum := (p.1.id, p.2.toDatum)

theorem entry_injective : Function.Injective entry := by
  intro p p' h
  obtain ⟨hid, hv⟩ := Prod.mk.inj h
  exact Prod.ext (Tag.id_injective hid) (TagValue.toDatum_injective hv)

theorem qualifies_iff {e : Int × Datum} : qualifies e = true ↔ ∃ p, e = entry p := by
  obtain ⟨n, d⟩ := e
  rw [qualifies, Bool.and_eq_true, decide_eq_true_iff, Tag.mem_ids_iff, TagValue.isValue_iff]
  constructor
  · rintro ⟨⟨tag, htag⟩, v, hv⟩
    exact ⟨(tag, v), Prod.ext htag hv⟩
  · rintro ⟨p, h⟩
    obtain ⟨htag, hv⟩ := Prod.mk.inj h
    exact ⟨⟨p.1, htag⟩, p.2, hv⟩

theorem qualify_eq_some_iff_entry {e : Int × Datum} {p : Tag × TagValue} :
    qualify e = some p ↔ e = entry p := by
  rw [qualify_eq_some_iff, TagValue.ofDatum?_eq_some_iff, Prod.ext_iff]
  rfl

/-- Qualifying leaves an entry as it is. -/
theorem map_entry_qualify (e : Int × Datum) :
    (qualify e).map entry = Option.guard qualifies e := by
  by_cases he : qualifies e = true
  · obtain ⟨p, rfl⟩ := qualifies_iff.1 he
    rw [Option.guard_eq_some_iff.2 ⟨rfl, he⟩, qualify_eq_some_iff_entry.2 rfl, Option.map_some]
  · rw [Option.guard_eq_none_iff.2 (Bool.not_eq_true _ ▸ he), Option.map_eq_none_iff]
    refine Option.eq_none_iff_forall_ne_some.2 fun p hp => he ?_
    exact qualifies_iff.2 ⟨p, qualify_eq_some_iff_entry.1 hp⟩

/-! ## The entries of a store -/

def rawEntries (s : TagStore) : List (Int × Datum) := s.tags.entries.map entry

/-- The store of a map has the entries that qualify, in their order. -/
theorem rawEntries_ofMap (m : OrderedMap Int Datum) (exifOffset : Int) (source : Option Path) :
    (ofMap m exifOffset source).rawEntries = m.entries.filter qualifies := by
  rw [rawEntries, ofMap, OrderedMap.ofList_entries (nodup_qualify m.nodup), List.map_filterMap,
    ← List.filterMap_eq_filter]
  exact List.filterMap_congr fun e _ => map_entry_qualify e

theorem qualifies_of_mem_rawEntries {s : TagStore} {e : Int × Datum} (h : e ∈ s.rawEntries) :
    qualifies e = true := by
  obtain ⟨p, -, rfl⟩ := List.mem_map.1 h
  exact qualifies_iff.2 ⟨p, rfl⟩

theorem nodup_rawEntries (s : TagStore) : (s.rawEntries.map Prod.fst).Nodup := by
  have hids : s.rawEntries.map Prod.fst = s.tags.keys.map fun tag => (tag.id : Int) := by
    simp [rawEntries, OrderedMap.keys, entry]
  rw [hids]
  exact s.tags.nodup.map Tag.id_injective

theorem contains_iff {s : TagStore} {tag : Tag} :
    s.contains tag = true ↔ ∃ d, ((tag.id : Int), d) ∈ s.rawEntries := by
  simp only [contains, OrderedMap.contains, List.any_eq_true, decide_eq_true_eq, rawEntries,
    List.mem_map]
  constructor
  · rintro ⟨p, hp, rfl⟩
    exact ⟨_, p, hp, rfl⟩
  · rintro ⟨d, p, hp, h⟩
    exact ⟨p, hp, Tag.id_injective (congrArg Prod.fst h)⟩

/-- Stores with the same entries, offset and source are equal. -/
theorem eq_of_rawEntries {s s' : TagStore} (h : s.rawEntries = s'.rawEntries)
    (hoffset : s.exifOffset = s'.exifOffset) (hsource : s.source = s'.source) : s = s' := by
  obtain ⟨⟨es, _⟩, offset, source⟩ := s
  obtain ⟨⟨es', _⟩, offset', source'⟩ := s'
  obtain rfl : es = es' := List.map_injective_iff.2 entry_injective h
  obtain rfl : offset = offset' := hoffset
  obtain rfl : source = source' := hsource
  rfl

/-! ## Views -/

/-- The views of a store tell of the entries of a list. -/
structure Represents (s : TagStore) (es : List (Int × Datum)) : Prop where
  size : s.tags.size = es.length
  keys : s.tags.keys.map (fun tag => (tag.id : Int)) = es.map Prod.fst
  contains : ∀ tag, s.contains tag = true ↔ ∃ d, ((tag.id : Int), d) ∈ es
  containsId : ∀ id, s.containsId id = true ↔ ∃ d, (id, d) ∈ es
  labelled : List.Forall₂ (fun p e => ∃ tag : Tag, p.1 = tag.label ∧ e = ((tag.id : Int), p.2.toDatum))
    s.labelled es
  /-- No label is written twice. -/
  dictionary : (OrderedMap.ofList s.labelled).entries = s.labelled

theorem nodup_labelled (s : TagStore) : (s.labelled.map Prod.fst).Nodup := by
  have hlabels : s.labelled.map Prod.fst = s.tags.keys.map Tag.label := by
    simp [labelled, OrderedMap.keys]
  rw [hlabels]
  exact s.tags.nodup.map Tag.label_injective

theorem containsId_iff {s : TagStore} {id : Int} :
    s.containsId id = true ↔ ∃ d, (id, d) ∈ s.rawEntries := by
  simp only [containsId, Option.any_eq_true, Tag.ofId?_eq_some_iff]
  constructor
  · rintro ⟨tag, rfl, htag⟩
    exact contains_iff.1 htag
  · rintro ⟨d, hd⟩
    obtain ⟨p, -, hp⟩ := List.mem_map.1 hd
    obtain rfl : (p.1.id : Int) = id := congrArg Prod.fst hp
    exact ⟨p.1, rfl, contains_iff.2 ⟨d, hd⟩⟩

theorem represents_rawEntries (s : TagStore) : s.Represents s.rawEntries where
  size := by simp [rawEntries, OrderedMap.size]
  keys := by simp [rawEntries, OrderedMap.keys, entry]
  contains _ := contains_iff
  containsId _ := containsId_iff
  labelled := by
    rw [labelled, rawEntries, List.forall₂_map_left_iff, List.forall₂_map_right_iff, List.forall₂_same]
    exact fun p _ => ⟨p.1, rfl, rfl⟩
  dictionary := OrderedMap.ofList_entries s.nodup_labelled

/-! ## Making a store again -/

def ofLabelled (m : OrderedMap String TagValue) (exifOffset : Int) (source : Option Path) : TagStore :=
  ofMap (.ofList (m.entries.filterMap fun p =>
    (Tag.ofLabel? p.1).map fun tag => ((tag.id : Int), p.2.toDatum))) exifOffset source

theorem ofMap_rawEntries (s : TagStore) :
    ofMap (.ofList s.rawEntries) s.exifOffset s.source = s := by
  refine eq_of_rawEntries ?_ rfl rfl
  rw [rawEntries_ofMap, OrderedMap.ofList_entries s.nodup_rawEntries]
  exact List.filter_eq_self.2 fun _ => qualifies_of_mem_rawEntries

theorem ofLabelled_labelled (s : TagStore) :
    ofLabelled (.ofList s.labelled) s.exifOffset s.source = s := by
  have hentries : s.labelled.filterMap (fun p =>
      (Tag.ofLabel? p.1).map fun tag => ((tag.id : Int), p.2.toDatum)) = s.rawEntries := by
    simp only [labelled, List.filterMap_map, Function.comp_def, Tag.ofLabel?_label, Option.map_some,
      List.filterMap_eq_map']
    rfl
  rw [ofLabelled, OrderedMap.ofList_entries s.nodup_labelled, hentries, ofMap_rawEntries]

/-! ## Entries that do not qualify -/

/-- What is kept of a list is what is kept of a part of it that lacks nothing of it. -/
theorem filter_eq_of_sublist {α : Type} {p : α → Bool} {xs ys : List α} (h : xs.Sublist ys)
    (hys : ys.Nodup) (hp : ∀ a, p a = true → a ∈ ys → a ∈ xs) : xs.filter p = ys.filter p := by
  have hsub : ys.filter p ⊆ xs.filter p := by
    intro a ha
    obtain ⟨hmem, hpa⟩ := List.mem_filter.1 ha
    exact List.mem_filter.2 ⟨hp a hpa hmem, hpa⟩
  exact (h.filter p).eq_of_length_le (List.subperm_of_subset (hys.filter p) hsub).length_le

/-- Two maps of which one lacks entries of the other, but none that qualify, make the same store. -/
theorem ofMap_eq_of_sublist {m m' : OrderedMap Int Datum} (h : m.entries.Sublist m'.entries)
    (hsame : ∀ e, qualifies e = true → (e ∈ m.entries ↔ e ∈ m'.entries)) (exifOffset : Int)
    (source : Option Path) : ofMap m exifOffset source = ofMap m' exifOffset source := by
  refine eq_of_rawEntries ?_ rfl rfl
  rw [rawEntries_ofMap, rawEntries_ofMap]
  exact filter_eq_of_sublist h (.of_map Prod.fst m'.nodup) fun e he => (hsame e he).2

/-- A store has the entries of its map that qualify, in their order, its views tell of them, it can be
made again of them or of its labelled values, and what does not qualify can come and go. -/
theorem stores_qualifying_entries (m : OrderedMap Int Datum) (exifOffset : Int) (source : Option Path) :
    Function.Injective Tag.label ∧
      ∃ s, ofMap m exifOffset source = s ∧ s.exifOffset = exifOffset ∧ s.source = source ∧
        s.rawEntries = m.entries.filter qualifies ∧ s.Represents (m.entries.filter qualifies) ∧
        ofMap (.ofList s.rawEntries) exifOffset source = s ∧
        ofLabelled (.ofList s.labelled) exifOffset source = s ∧
        ∀ m' : OrderedMap Int Datum,
          m.entries.Sublist m'.entries ∨ m'.entries.Sublist m.entries →
          (∀ e, qualifies e = true → (e ∈ m.entries ↔ e ∈ m'.entries)) →
          ofMap m' exifOffset source = s := by
  have hraw := rawEntries_ofMap m exifOffset source
  refine ⟨Tag.label_injective, _, rfl, rfl, rfl, hraw, ?_, ofMap_rawEntries _, ofLabelled_labelled _, ?_⟩
  · rw [← hraw]
    exact represents_rawEntries _
  · rintro m' (hmore | hless) hsame
    · exact (ofMap_eq_of_sublist hmore hsame exifOffset source).symm
    · exact ofMap_eq_of_sublist hless (fun e he => (hsame e he).symm) exifOffset source

/-- A maker, a truth value under the id of a tag, and a number under an id beyond the vocabulary. -/
def mixedMap : OrderedMap Int Datum :=
  ⟨[(0x010F, .text "Canon"), (0x0112, .bool true), (0x9999, .int 1)], by decide⟩

def makerMap : OrderedMap Int Datum := ⟨[(0x010F, .text "Canon")], by decide⟩

theorem stores_qualifying_entries_mixed :
    (ofMap mixedMap 30 none).labelled = [("Make", .text "Canon")] ∧
      (ofMap mixedMap 30 none).containsId 0x0112 = false ∧
      ofMap makerMap 30 none = ofMap mixedMap 30 none := by
  obtain ⟨-, _, rfl, -, -, -, -, -, -, hchange⟩ := stores_qualifying_entries mixedMap 30 none
  refine ⟨rfl, rfl, hchange makerMap (Or.inr ?_) fun e he => ?_⟩
  · exact (List.nil_sublist _).cons_cons _
  · simp only [mixedMap, makerMap, List.mem_cons, List.not_mem_nil, or_false]
    refine or_iff_left ?_
    rintro (rfl | rfl)
    · exact absurd he (by decide)
    · exact absurd he (by decide)

end TagStore

end Exif
