import Exif.Path
import Mathlib

/-! The final component of a path that is given as a text. What stands before the last name, and slashes
behind it, do not change it. -/

namespace Exif.Path

/-- A text that is a component as it stands. -/
def IsName (name : String) : Prop := name ≠ "" ∧ name ≠ "." ∧ '/' ∉ name.toList

def slashes (k : Nat) : String := String.ofList (List.replicate k '/')

/-! ## Pieces between slashes -/

theorem splitSlashes_eq_splitOn (cs : List Char) : splitSlashes cs = cs.splitOn '/' := by
  induction cs with
  | nil => rfl
  | cons c cs ih =>
    rw [splitSlashes, ih, List.splitOn_cons_eq_if_modifyHead]
    cases c == '/' with
    | true => rw [if_pos rfl]
    | false =>
      rw [if_neg Bool.false_ne_true]
      rcases hcs : List.splitOn '/' cs with _ | ⟨piece, pieces⟩
      · exact absurd hcs (List.splitOn_ne_nil _ _)
      · rfl

theorem splitSlashes_append (cs ds : List Char) :
    splitSlashes (cs ++ '/' :: ds) = splitSlashes cs ++ splitSlashes ds := by
  simp only [splitSlashes_eq_splitOn, List.splitOn_append_cons_self]

theorem splitSlashes_of_not_mem {cs : List Char} (h : '/' ∉ cs) : splitSlashes cs = [cs] := by
  rw [splitSlashes_eq_splitOn, List.splitOn_eq_singleton h]

theorem not_mem_of_mem_splitSlashes {piece cs : List Char} (h : piece ∈ splitSlashes cs) : '/' ∉ piece := by
  rw [splitSlashes_eq_splitOn] at h
  induction cs generalizing piece with
  | nil =>
    rw [List.splitOn_nil, List.mem_singleton] at h
    rw [h]
    exact List.not_mem_nil
  | cons c cs ih =>
    rw [List.splitOn_cons_eq_if_modifyHead] at h
    split at h
    · rcases List.mem_cons.1 h with rfl | h
      · exact List.not_mem_nil
      · exact ih h
    · next hc =>
      rcases hcs : List.splitOn '/' cs with _ | ⟨first, pieces⟩
      · exact absurd hcs (List.splitOn_ne_nil _ _)
      · rw [hcs] at h ih
        rcases List.mem_cons.1 h with rfl | h
        · have hfirst := ih List.mem_cons_self
          rw [List.mem_cons, not_or]
          exact ⟨fun heq => hc (by rw [← heq]; rfl), hfirst⟩
        · exact ih (List.mem_cons_of_mem _ h)

/-! ## Components -/

theorem isComponent_iff {name : String} : isComponent name.toList = true ↔ name ≠ "" ∧ name ≠ "." := by
  have hempty : "".toList = [] := rfl
  have hdot : ".".toList = ['.'] := rfl
  rw [isComponent, Bool.and_eq_true, bne_iff_ne, bne_iff_ne, ← hdot, ← hempty, ne_eq, ne_eq,
    String.toList_inj, String.toList_inj]

theorem components_append (dir rest : String) :
    (ofString (dir ++ "/" ++ rest)).components = (ofString dir).components ++ (ofString rest).components := by
  have htext : (dir ++ "/" ++ rest).toList = dir.toList ++ '/' :: rest.toList := by simp
  simp only [ofString, htext, splitSlashes_append, List.filter_append, List.map_append]

theorem components_of_name {name : String} (h : IsName name) : (ofString name).components = [name] := by
  obtain ⟨hempty, hdot, hslash⟩ := h
  simp [ofString, splitSlashes_of_not_mem hslash, isComponent_iff.2 ⟨hempty, hdot⟩]

theorem components_slashes (k : Nat) : (ofString (slashes k)).components = [] := by
  induction k with
  | zero => rfl
  | succ k ih =>
    have htext : slashes (k + 1) = "" ++ "/" ++ slashes k := by
      rw [← String.toList_inj]
      simp [slashes, List.replicate_succ]
    rw [htext, components_append, ih]
    rfl

theorem components_append_slashes {name : String} (h : IsName name) (k : Nat) :
    (ofString (name ++ slashes k)).components = [name] := by
  cases k with
  | zero => rw [slashes, List.replicate_zero, String.ofList_nil, String.append_empty, components_of_name h]
  | succ k =>
    have htext : name ++ slashes (k + 1) = name ++ "/" ++ slashes k := by
      rw [← String.toList_inj]
      simp [slashes, List.replicate_succ]
    rw [htext, components_append, components_of_name h, components_slashes]
    rfl

theorem isName_of_mem_components {s c : String} (h : c ∈ (ofString s).components) : IsName c := by
  obtain ⟨piece, hpiece, rfl⟩ := List.mem_map.1 h
  obtain ⟨hmem, hcomponent⟩ := List.mem_filter.1 hpiece
  rw [← String.toList_ofList (l := piece), isComponent_iff] at hcomponent
  refine ⟨hcomponent.1, hcomponent.2, ?_⟩
  rw [String.toList_ofList]
  exact not_mem_of_mem_splitSlashes hmem

/-! ## The final component -/

theorem name_append_slashes {name : String} (h : IsName name) (k : Nat) :
    (ofString (name ++ slashes k)).name = name := by
  rw [Path.name, components_append_slashes h]
  rfl

theorem name_ofString_of_isName {name : String} (h : IsName name) : (ofString name).name = name := by
  rw [Path.name, components_of_name h]
  rfl

/-- A directory before a name, and slashes behind it, do not change it. -/
theorem name_below {name : String} (h : IsName name) (dir : String) (k : Nat) :
    (ofString (dir ++ "/" ++ name ++ slashes k)).name = name := by
  rw [Path.name, String.append_assoc, components_append, components_append_slashes h,
    List.getLast?_concat]
  rfl

/-- The final component of a path is a name, unless there is none. -/
theorem name_ofString (s : String) : (ofString s).name = "" ∨ IsName (ofString s).name := by
  unfold Path.name
  rcases hlast : (ofString s).components.getLast? with _ | c
  · exact Or.inl rfl
  · exact Or.inr (isName_of_mem_components (List.mem_of_getLast? hlast))

/-- The final component, taken for a path, has itself as its final component. -/
theorem name_ofString_name (s : String) : (ofString (ofString s).name).name = (ofString s).name := by
  rcases name_ofString s with hempty | hname
  · rw [hempty]
    rfl
  · exact name_ofString_of_isName hname

end Exif.Path
