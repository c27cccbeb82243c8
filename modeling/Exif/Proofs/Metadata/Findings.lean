import Exif.Metadata.Directories
import Exif.Proofs.OrderedMap
import Exif.Proofs.Text.Pieces
import Mathlib.Data.List.Basic

/-! The metadata of both decoders are collected alike: the entries that are kept give findings, an id
each and what is read under it, and the findings are recorded in order. The value at an id is that
of the last finding there that has one. -/

namespace Exif

/-- What a kept entry gives: its id, and the value that is read there, none if it is unreadable. -/
abbrev Finding : Type := Int × Except ConversionError (Option TagValue)

def Finding.valueAt (f : Finding) (id : Int) : Option TagValue :=
  match f.2 with
  | .ok v => if f.1 = id then v else none
  | .error _ => none

theorem Finding.valueAt_of_ok {f : Finding} {v : Option TagValue} (h : f.2 = .ok v) (id : Int) :
    f.valueAt id = if f.1 = id then v else none := by
  rw [valueAt, h]

theorem Finding.valueAt_of_ne {f : Finding} {id : Int} (h : f.1 ≠ id) : f.valueAt id = none := by
  unfold valueAt
  split
  · exact if_neg h
  · rfl

namespace Collected

def note (m : Collected) (f : Finding) : Except ConversionError Collected := f.2.map (m.record f.1)

def ofFindings (fs : List Finding) : Except ConversionError Collected := fs.foldlM note .empty

theorem get?_record (m : Collected) (id k : Int) (v : Option TagValue) :
    (m.record id v).get? k = ((if id = k then v else none).or (m.get? k)) := by
  cases v with
  | none => rw [ite_self]; rfl
  | some v =>
    rw [record, OrderedMap.get?_insert]
    split <;> rfl

theorem note_eq_ok {m m' : Collected} {f : Finding} (h : note m f = .ok m') :
    ∃ v, f.2 = .ok v ∧ m' = m.record f.1 v := by
  obtain ⟨id, r⟩ := f
  cases r with
  | error e => simp [note, Except.map] at h
  | ok v =>
    simp only [note, Except.map, Except.ok.injEq] at h
    exact ⟨v, rfl, h.symm⟩

theorem foldlM_cons_eq_ok {m m' : Collected} {f : Finding} {fs : List Finding}
    (h : (f :: fs).foldlM note m = .ok m') :
    ∃ v, f.2 = .ok v ∧ fs.foldlM note (m.record f.1 v) = .ok m' := by
  rw [List.foldlM_cons] at h
  cases hf : note m f with
  | error e => rw [hf] at h; exact nomatch h
  | ok m₁ =>
    obtain ⟨v, hv, rfl⟩ := note_eq_ok hf
    rw [hf] at h
    exact ⟨v, hv, h⟩

theorem get?_foldlM {fs : List Finding} {m m' : Collected} (h : fs.foldlM note m = .ok m') (k : Int) :
    m'.get? k = (fs.reverse.findSome? (·.valueAt k)).or (m.get? k) := by
  induction fs generalizing m with
  | nil =>
    obtain rfl : m = m' := by simpa [pure, Except.pure] using h
    rfl
  | cons f fs ih =>
    obtain ⟨v, hv, hrest⟩ := foldlM_cons_eq_ok h
    rw [ih hrest, get?_record, List.reverse_cons, List.findSome?_append, List.findSome?_singleton,
      f.valueAt_of_ok hv, Option.or_assoc]

/-- The value at an id is that of the last finding there that has one. -/
theorem get?_ofFindings {fs : List Finding} {m : Collected} (h : ofFindings fs = .ok m) (k : Int) :
    m.get? k = fs.reverse.findSome? (·.valueAt k) := by
  rw [get?_foldlM h, OrderedMap.get?_empty, Option.or_none]

/-- Only the findings at an id count for it. -/
theorem get?_ofFindings_filter {fs : List Finding} {m : Collected} (h : ofFindings fs = .ok m) (k : Int) :
    m.get? k = (fs.filter fun f => f.1 = k).reverse.findSome? (·.valueAt k) := by
  rw [get?_ofFindings h, ← List.filter_reverse, ← List.head?_filterMap, ← List.head?_filterMap,
    List.filterMap_filter]
  refine congrArg List.head? (List.filterMap_congr fun f _ => ?_)
  by_cases hf : f.1 = k
  · rw [if_pos (decide_eq_true hf)]
  · rw [if_neg (by simpa using hf), f.valueAt_of_ne hf]

theorem foldlM_total {fs : List Finding} (h : ∀ f ∈ fs, ∃ v, f.2 = .ok v) (m : Collected) :
    ∃ m', fs.foldlM note m = .ok m' := by
  induction fs generalizing m with
  | nil => exact ⟨m, rfl⟩
  | cons f fs ih =>
    obtain ⟨v, hv⟩ := h f (List.mem_cons_self ..)
    obtain ⟨m', hm'⟩ := ih (fun g hg => h g (List.mem_cons_of_mem f hg)) (m.record f.1 v)
    refine ⟨m', ?_⟩
    rw [List.foldlM_cons, note, hv]
    exact hm'

theorem ofFindings_total {fs : List Finding} (h : ∀ f ∈ fs, ∃ v, f.2 = .ok v) :
    ∃ m, ofFindings fs = .ok m := foldlM_total h _

end Collected

theorem Finding.eq_of_valueAt {f : Finding} {k : Int} {v : TagValue} (h : f.valueAt k = some v) :
    f = (k, .ok (some v)) := by
  obtain ⟨id, r⟩ := f
  cases r with
  | error e => exact nomatch h
  | ok w =>
    simp only [valueAt] at h
    split at h
    · next hid => rw [h, hid]
    · exact nomatch h

theorem Collected.mem_findings {fs : List Finding} {m : Collected} (h : ofFindings fs = .ok m)
    {k : Int} {v : TagValue} (hv : m.get? k = some v) : (k, .ok (some v)) ∈ fs := by
  rw [get?_ofFindings h] at hv
  obtain ⟨f, hf, hval⟩ := List.exists_of_findSome?_eq_some hv
  rw [← Finding.eq_of_valueAt hval]
  exact List.mem_reverse.1 hf

/-! ## The findings of metadata -/

namespace Listing

theorem directoryWord_append {word : String} (h : ' ' ∉ word.toList) (name : String) :
    directoryWord (word ++ " " ++ name) = word := by
  rw [directoryWord, (Text.takeWhile_ne_eq_iff h).2 (Or.inr ⟨name.toList, by simp⟩), String.ofList_toList]

def finding? : String × ListingEntry → Option Finding
  | (_, .raw _) => none
  | (key, .field f) => if keeps key f then some (f.id, f.value?) else none

def findings (l : Listing) : List Finding := l.filterMap finding?

theorem mem_findings {l : Listing} {f : Finding} (h : f ∈ findings l) :
    ∃ key g, (key, .field g) ∈ l ∧ keeps key g = true ∧ f = (g.id, g.value?) := by
  obtain ⟨⟨key, e⟩, he, hf⟩ := List.mem_filterMap.1 h
  cases e with
  | raw bytes => exact nomatch hf
  | field g =>
    simp only [finding?] at hf
    split at hf
    · next hk => exact ⟨key, g, he, hk, (Option.some.inj hf).symm⟩
    · exact nomatch hf

theorem foldlM_step (l : Listing) (m : Collected) :
    l.foldlM step m = (findings l).foldlM Collected.note m := by
  induction l generalizing m with
  | nil => rfl
  | cons e l ih =>
    have hstep : step m e = match finding? e with
        | some f => m.note f
        | none => .ok m := by
      obtain ⟨key, e⟩ := e
      cases e with
      | raw bytes => rfl
      | field f =>
        simp only [step, finding?]
        split <;> rfl
    rw [List.foldlM_cons, hstep, findings, List.filterMap_cons]
    cases finding? e with
    | none => exact ih m
    | some f =>
      rw [List.foldlM_cons]
      exact congrArg _ (funext ih)

theorem collect_eq (l : Listing) : collect l = Collected.ofFindings (findings l) := foldlM_step l _

end Listing

namespace DirectoryLists

def finding (e : DirectoryEntry) : Finding := (e.1, e.2.entryValue?)

def findings (d : DirectoryLists) : List Finding := d.kept.map finding

theorem mem_kept {d : DirectoryLists} {e : DirectoryEntry} (h : e ∈ d.kept) :
    ∃ es, e ∈ es ∧ (es = d.image ∨ es = d.exif ∨ es = d.thumbnail) := by
  rcases List.mem_append.1 h with h | h
  · rcases List.mem_append.1 h with h | h
    · exact ⟨d.image, (List.mem_filter.1 h).1, Or.inl rfl⟩
    · exact ⟨d.exif, (List.mem_filter.1 h).1, Or.inr (Or.inl rfl)⟩
  · exact ⟨d.thumbnail, (List.mem_filter.1 h).1, Or.inr (Or.inr rfl)⟩

theorem collect_eq (d : DirectoryLists) : d.collect = Collected.ofFindings d.findings := by
  rw [Collected.ofFindings, findings, List.foldlM_map]
  rfl

end DirectoryLists

end Exif
