import Exif.OrderedMap
import Mathlib.Tactic.Common

/-! Looking up in an ordered map: the value at a key is the listed one, and a write changes the
look-up of its own key only. -/

namespace Exif.OrderedMap

variable {κ ν μ : Type}

theorem eq_of_mem_of_mem {ps : List (κ × ν)} (h : (ps.map Prod.fst).Nodup) {k : κ} {v w : ν}
    (hv : (k, v) ∈ ps) (hw : (k, w) ∈ ps) : v = w := by
  induction ps with
  | nil => simp at hv
  | cons p ps ih =>
    rw [List.map_cons, List.nodup_cons] at h
    have hk {u : ν} (hu : (k, u) ∈ ps) : k ∈ ps.map Prod.fst := List.mem_map_of_mem hu
    rcases List.mem_cons.1 hv with rfl | hv
    · rcases List.mem_cons.1 hw with hw | hw
      · exact (Prod.ext_iff.1 hw).2.symm
      · exact absurd (hk hw) h.1
    · rcases List.mem_cons.1 hw with hw | hw
      · rw [← hw] at h
        exact absurd (hk hv) h.1
      · exact ih h.2 hv hw

/-- Keys stay distinct where no two different ones are turned into the same. -/
theorem nodup_filterMap {α β κ' : Type} {f : α → Option β} {key : α → κ} {key' : β → κ'} {xs : List α}
    (h : (xs.map key).Nodup)
    (hf : ∀ a b a' b', f a = some b → f a' = some b' → key' b = key' b' → key a = key a') :
    ((xs.filterMap f).map key').Nodup := by
  rw [List.Nodup, List.pairwise_map, List.pairwise_filterMap]
  exact (List.pairwise_map.1 h).imp fun hne b hb b' hb' heq => hne (hf _ b _ b' hb hb' heq)

/-- The keys of what is kept of a list stand in the order of the list. -/
theorem sublist_filterMap {α β : Type} {f : α → Option β} {key : α → κ} {key' : β → κ}
    (h : ∀ a b, f a = some b → key' b = key a) (xs : List α) :
    ((xs.filterMap f).map key').Sublist (xs.map key) := by
  induction xs with
  | nil => exact List.Sublist.slnil
  | cons a xs ih =>
    cases ha : f a with
    | none =>
      rw [List.filterMap_cons_none ha]
      exact ih.cons (key a)
    | some b =>
      rw [List.filterMap_cons_some ha, List.map_cons, h a b ha]
      exact ih.cons_cons (key a)

/-- Keys can be left out before or after. -/
theorem filter_filterMap_of_key {α β : Type} {f : α → Option β} {key : α → κ} {key' : β → κ}
    (h : ∀ a b, f a = some b → key' b = key a) (p : κ → Bool) (xs : List α) :
    (xs.filterMap f).filter (fun b => p (key' b)) = (xs.filter fun a => p (key a)).filterMap f := by
  induction xs with
  | nil => rfl
  | cons a xs ih =>
    rcases ha : f a with _ | b
    · by_cases hp : p (key a) = true <;> simp [ha, hp, ih]
    · have hkey := h a b ha
      by_cases hp : p (key a) = true <;> simp [ha, hp, hkey, ih]

/-- From a list with distinct keys, what is kept under a key is what is kept of the one item there. -/
theorem mem_filterMap {f : κ × ν → Option (κ × μ)} {ps : List (κ × ν)} (h : (ps.map Prod.fst).Nodup)
    (hf : ∀ p q, f p = some q → q.1 = p.1) {p : κ × ν} (hp : p ∈ ps) {w : μ} :
    (p.1, w) ∈ ps.filterMap f ↔ f p = some (p.1, w) := by
  rw [List.mem_filterMap]
  constructor
  · rintro ⟨⟨k, v⟩, hmem, hq⟩
    obtain ⟨k', v'⟩ := p
    obtain rfl : k' = k := hf _ _ hq
    rw [eq_of_mem_of_mem h hp hmem]
    exact hq
  · intro hq
    exact ⟨p, hp, hq⟩

variable [DecidableEq κ]

@[simp] theorem get?_empty (k : κ) : (empty : OrderedMap κ ν).get? k = none := rfl

theorem find?_write (k k' : κ) (v : ν) (ps : List (κ × ν)) :
    ((write k v ps).find? fun p => p.1 = k').map Prod.snd =
      if k = k' then some v else (ps.find? fun p => p.1 = k').map Prod.snd := by
  induction ps with
  | nil =>
    by_cases hk : k = k' <;> simp [write, hk]
  | cons p ps ih =>
    by_cases hp : p.1 = k
    · subst hp
      by_cases hk : p.1 = k' <;> simp [write, hk]
    · by_cases hp' : p.1 = k'
      · subst hp'
        simp [write, hp, Ne.symm hp]
      · simp only [write, hp, if_false, List.find?_cons, hp', decide_false]
        exact ih

theorem get?_insert (m : OrderedMap κ ν) (k k' : κ) (v : ν) :
    (m.insert k v).get? k' = if k = k' then some v else m.get? k' := find?_write k k' v m.entries

theorem get?_eq_some_iff {m : OrderedMap κ ν} {k : κ} {v : ν} :
    m.get? k = some v ↔ (k, v) ∈ m.entries := by
  constructor
  · intro h
    obtain ⟨p, hp, rfl⟩ := Option.map_eq_some_iff.1 h
    have hk : p.1 = k := by simpa using List.find?_some hp
    rw [← hk]
    exact List.mem_of_find?_eq_some hp
  · intro h
    obtain ⟨p, hp⟩ : ∃ p, (m.entries.find? fun p => p.1 = k) = some p :=
      Option.isSome_iff_exists.1 (List.find?_isSome.2 ⟨(k, v), h, by simp⟩)
    have hk : p.1 = k := by simpa using List.find?_some hp
    have hmem : (k, p.2) ∈ m.entries := by
      rw [← hk]
      exact List.mem_of_find?_eq_some hp
    rw [get?, hp, eq_of_mem_of_mem m.nodup h hmem]
    rfl

theorem get?_mapValues (f : ν → μ) (m : OrderedMap κ ν) (k : κ) :
    (m.mapValues f).get? k = (m.get? k).map f := by
  simp only [get?, mapValues, List.find?_map, Option.map_map]
  rfl

/-- The map with every key sent through `f`, which keeps different keys different. -/
def mapKeys {κ' : Type} (f : κ → κ') (hf : Function.Injective f) (m : OrderedMap κ ν) : OrderedMap κ' ν where
  entries := m.entries.map fun p => (f p.1, p.2)
  nodup := by
    rw [List.Nodup, List.pairwise_map, List.pairwise_map]
    exact (List.pairwise_map.1 m.nodup).imp hf.ne

theorem get?_mapKeys {κ' : Type} [DecidableEq κ'] {f : κ → κ'} (hf : Function.Injective f)
    (m : OrderedMap κ ν) (k : κ) : (m.mapKeys f hf).get? (f k) = m.get? k := by
  simp only [get?, mapKeys, List.find?_map, Option.map_map, Function.comp_def, hf.eq_iff]

/-! ## Maps from lists -/

theorem write_of_not_mem {k : κ} {v : ν} {ps : List (κ × ν)} (h : k ∉ ps.map Prod.fst) :
    write k v ps = ps ++ [(k, v)] := by
  induction ps with
  | nil => rfl
  | cons p ps ih =>
    rw [List.map_cons, List.mem_cons, not_or] at h
    rw [write, if_neg (fun hp => h.1 hp.symm), ih h.2]
    rfl

theorem foldl_insert_entries (ps : List (κ × ν)) (m : OrderedMap κ ν)
    (h : ((m.entries ++ ps).map Prod.fst).Nodup) :
    (ps.foldl (fun m p => m.insert p.1 p.2) m).entries = m.entries ++ ps := by
  induction ps generalizing m with
  | nil => exact (List.append_nil _).symm
  | cons p ps ih =>
    have hp : p.1 ∉ m.entries.map Prod.fst := by
      intro hm
      rw [List.map_append, List.nodup_append] at h
      exact h.2.2 p.1 hm p.1 (by simp) rfl
    have hi : (m.insert p.1 p.2).entries = m.entries ++ [p] := write_of_not_mem hp
    rw [List.foldl_cons, ih, hi, List.append_assoc]
    · rfl
    · rw [hi, List.append_assoc]
      exact h

/-- Pairs with different keys are listed as they are given. -/
theorem ofList_entries {ps : List (κ × ν)} (h : (ps.map Prod.fst).Nodup) :
    (ofList ps).entries = ps := foldl_insert_entries ps empty h

theorem keys_insert (m : OrderedMap κ ν) (k : κ) (v : ν) :
    (m.insert k v).keys = if k ∈ m.keys then m.keys else m.keys ++ [k] := keys_write k v m.entries

theorem keys_foldl_insert (ps : List (κ × ν)) (m : OrderedMap κ ν) :
    (ps.foldl (fun m p => m.insert p.1 p.2) m).keys =
      m.keys ++ ((ps.map Prod.fst).filter fun k => k ∉ m.keys).eraseDups := by
  induction ps generalizing m with
  | nil => simp
  | cons p ps ih =>
    rw [List.foldl_cons, ih, keys_insert, List.map_cons]
    by_cases hp : p.1 ∈ m.keys
    · rw [if_pos hp, List.filter_cons_of_neg (by simpa using hp)]
    · have hnew : (ps.map Prod.fst).filter (fun k => k ∉ m.keys ++ [p.1]) =
          ((ps.map Prod.fst).filter fun k => k ∉ m.keys).filter fun k => !k == p.1 := by
        rw [List.filter_filter]
        refine List.filter_congr fun k _ => ?_
        simp [beq_eq_decide, and_comm]
      rw [if_neg hp, List.filter_cons_of_pos (by simpa using hp), List.eraseDups_cons, hnew,
        List.append_assoc]
      rfl

/-- Keys stand in the order of their first pairs. -/
theorem keys_ofList (ps : List (κ × ν)) : (ofList ps).keys = (ps.map Prod.fst).eraseDups := by
  rw [ofList, keys_foldl_insert]
  have hall : (ps.map Prod.fst).filter (fun k => k ∉ (empty : OrderedMap κ ν).keys) = ps.map Prod.fst :=
    List.filter_eq_self.2 fun k _ => rfl
  rw [hall]
  rfl

theorem write_ne_nil (k : κ) (v : ν) (ps : List (κ × ν)) : write k v ps ≠ [] := by
  cases ps with
  | nil => exact List.cons_ne_nil _ _
  | cons p ps =>
    rw [write]
    split <;> exact List.cons_ne_nil _ _

theorem foldl_insert_ne_nil (ps : List (κ × ν)) {m : OrderedMap κ ν} (h : m.entries ≠ []) :
    (ps.foldl (fun m p => m.insert p.1 p.2) m).entries ≠ [] := by
  induction ps generalizing m with
  | nil => exact h
  | cons p ps ih => exact ih (write_ne_nil p.1 p.2 m.entries)

theorem ofList_entries_eq_nil {ps : List (κ × ν)} : (ofList ps).entries = [] ↔ ps = [] := by
  cases ps with
  | nil => exact iff_of_true rfl rfl
  | cons p ps =>
    exact iff_of_false (foldl_insert_ne_nil ps (write_ne_nil p.1 p.2 [])) (List.cons_ne_nil _ _)

end Exif.OrderedMap
