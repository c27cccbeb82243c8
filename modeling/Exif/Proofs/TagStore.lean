import Exif.Proofs.OrderedMap
import Exif.Proofs.Results
import Exif.TagStore

/-! A store holds under each tag what the map that it was made of has at the id of the tag. Ids
outside the vocabulary and data of other kinds are dropped and disturb nothing. What is read as a value
of some kind is there. -/

namespace Exif

theorem Tag.ofId?_eq_some_iff {n : Int} {tag : Tag} : ofId? n = some tag ↔ n = tag.id := by
  constructor
  · intro h
    exact (id_of_ofId? h).symm
  · rintro rfl
    exact ofId?_id tag

namespace TagStore

theorem qualify_eq_some_iff {e : Int × Datum} {tag : Tag} {v : TagValue} :
    qualify e = some (tag, v) ↔ e.1 = tag.id ∧ TagValue.ofDatum? e.2 = some v := by
  unfold qualify
  constructor
  · intro h
    split at h
    · next t w ht hw =>
      obtain ⟨rfl, rfl⟩ := Prod.mk.inj (Option.some.inj h)
      exact ⟨(Tag.id_of_ofId? ht).symm, hw⟩
    · exact nomatch h
  · rintro ⟨hid, hv⟩
    rw [hid, Tag.ofId?_id, hv]

/-- No two entries with different ids qualify for one tag. -/
theorem nodup_qualify {es : List (Int × Datum)} (h : (es.map Prod.fst).Nodup) :
    ((es.filterMap qualify).map Prod.fst).Nodup := by
  refine OrderedMap.nodup_filterMap h fun e q e' q' he he' heq => ?_
  rw [(qualify_eq_some_iff.1 he).1, (qualify_eq_some_iff.1 he').1, heq]

theorem get?_ofMap (m : OrderedMap Int Datum) (exifOffset : Int) (source : Option Path) (tag : Tag) :
    (ofMap m exifOffset source).tags.get? tag = (m.get? tag.id).bind TagValue.ofDatum? := by
  have hentries := OrderedMap.ofList_entries (nodup_qualify m.nodup)
  ext v
  rw [OrderedMap.get?_eq_some_iff, ofMap, hentries, List.mem_filterMap, Option.bind_eq_some_iff]
  constructor
  · rintro ⟨e, he, hq⟩
    obtain ⟨hid, hv⟩ := qualify_eq_some_iff.1 hq
    refine ⟨e.2, OrderedMap.get?_eq_some_iff.2 ?_, hv⟩
    rw [← hid]
    exact he
  · rintro ⟨d, hd, hv⟩
    exact ⟨(tag.id, d), OrderedMap.get?_eq_some_iff.1 hd, qualify_eq_some_iff.2 ⟨rfl, hv⟩⟩

/-- A store made of values has under each tag the value at its id. -/
theorem get?_ofMap_toDatum (m : OrderedMap Int TagValue) (exifOffset : Int) (source : Option Path)
    (tag : Tag) :
    (ofMap (m.mapValues TagValue.toDatum) exifOffset source).tags.get? tag = m.get? tag.id := by
  rw [get?_ofMap, OrderedMap.get?_mapValues]
  cases m.get? (tag.id : Int) with
  | none => rfl
  | some v => exact TagValue.ofDatum?_toDatum v

/-! ## Readings -/

variable {s : TagStore} {tag : Tag}

theorem contains_of_get? {v : TagValue} (h : s.tags.get? tag = some v) : s.contains tag = true := by
  have hmem := OrderedMap.get?_eq_some_iff.1 h
  exact List.any_eq_true.2 ⟨(tag, v), hmem, by simp⟩

theorem contains_of_lookup {kind : Kind} {v : TagValue} (h : s.lookup tag kind = .ok (some v)) :
    s.contains tag = true := by
  rcases hget : s.tags.get? tag with _ | w
  · cases kind <;> simp [lookup, double?, int?, text?, refuse, hget, Except.map] at h
  · exact contains_of_get? hget

theorem lookup_double_eq_some {x : Float} (h : s.double? tag = .ok (some x)) :
    s.lookup tag .double = .ok (some (.double x)) := by
  rw [lookup, h]
  rfl

theorem lookup_double_eq_none : s.lookup tag .double = .ok none ↔ s.double? tag = .ok none := by
  rw [lookup]
  rcases s.double? tag with e | _ | x <;> simp [Except.map]

theorem double_eq_ok {x : Float} : s.double tag = .ok x ↔ s.double? tag = .ok (some x) := by
  unfold double
  rcases s.double? tag with e | _ | y <;> simp [bind, Except.bind, require]

end TagStore

end Exif
