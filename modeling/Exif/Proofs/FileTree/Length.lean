import Exif.Proofs.FileTree
import Exif.Proofs.FileTree.Walk
import Mathlib.Tactic.Ring

/-! Paths that are too long. What lies below a directory can be reached through the directories between, so
that its path is refused only over its length, or over that of a name in it. The same entry can have a path
that is short enough and one that is not. -/

namespace Exif

theorem Path.text_of_ne_nil {p : Path} (h : p.components ≠ []) :
    p.text = p.root.text ++ "/".intercalate p.components := by
  obtain ⟨root, components⟩ := p
  cases components with
  | nil => exact absurd rfl h
  | cons c cs => cases root <;> rfl

namespace FileTree

variable {α : Type}

section

variable {t : FileTree α} {dir : Path} {place path : List String} {name : String} {node : Node α}

def HasLongName (path : List String) : Prop := ∃ name ∈ path, maxComponent < name.utf8ByteSize

theorem hasLongName_cons : HasLongName (name :: path) ↔
    maxComponent < name.utf8ByteSize ∨ HasLongName path := by
  simp [HasLongName]

theorem step_of_entry (hplace : t.at? place = some .directory) (hname : isEntry name = true) :
    t.step place name = if maxComponent < name.utf8ByteSize then .error .nameTooLong
      else .ok (place ++ [name]) := by
  simp only [step, hplace, enter, (isEntry_iff.1 hname).1, ne_eq, not_false_eq_true, true_or, if_true]

open Classical in
/-- The directories on the way are there, so that only a long name stops a look-up. -/
theorem foldlM_step_of_liesBelow (hplace : t.at? place = some .directory)
    (h : t.LiesBelow place path node) : path.foldlM t.step place =
      if HasLongName path then .error .nameTooLong else .ok (place ++ path) := by
  induction h with
  | @entry place name node hname h =>
    rw [List.foldlM_cons, step_of_entry hplace hname]
    by_cases hlong : maxComponent < name.utf8ByteSize
    · rw [if_pos hlong, if_pos (hasLongName_cons.2 (Or.inl hlong))]
      rfl
    · have hshort : ¬ HasLongName [name] := by simp [HasLongName, hlong]
      rw [if_neg hlong, if_neg hshort]
      rfl
  | @inside place rest name node hname h hrest ih =>
    have hdirectory : t.at? (place ++ [name]) = some .directory := by
      rw [at?_of_entry t place [] hname, h]
    rw [List.foldlM_cons, step_of_entry hplace hname, hasLongName_cons]
    by_cases hlong : maxComponent < name.utf8ByteSize
    · rw [if_pos hlong, if_pos (Or.inl hlong)]
      rfl
    · rw [if_neg hlong, or_iff_right hlong]
      change rest.foldlM t.step (place ++ [name]) = _
      rw [ih hdirectory, List.append_assoc]
      rfl

/-- A directory is found at the end of its path. -/
theorem follow_of_directory (h : t.state dir = .directory) :
    t.follow dir = .ok (lexicalPlace dir) ∧ t.at? (lexicalPlace dir) = some .directory := by
  have hreach := reach_of_directory h
  have hat : t.at? (lexicalPlace dir) = some .directory := by
    rcases hnode : t.at? (lexicalPlace dir) with _ | _ | _
    · simp [state, hreach, Except.map, hnode] at h
    · simp [state, hreach, Except.map, hnode] at h
    · rfl
  refine ⟨?_, hat⟩
  unfold reach at hreach
  split at hreach
  · cases hreach
  · split at hreach
    · cases hreach
    · exact mapError_eq_ok.1 hreach

/-- The path of what lies below a directory is refused exactly if it is too long, or a name in it is. A
path with a NUL in it is not even shown to the system. -/
theorem state_below_eq_refused (hdir : t.state dir = .directory)
    (hbelow : t.LiesBelow (lexicalPlace dir) path node)
    (hnul : Char.ofNat 0 ∉ (dir.below path).text.toList) {e : PathError} :
    t.state (dir.below path) = .refused e ↔ e = .fault .nameTooLong (dir.below path) ∧
      (maxPath < (dir.below path).text.utf8ByteSize ∨ HasLongName path) := by
  classical
  obtain ⟨hfollow, hat⟩ := follow_of_directory hdir
  have hthrough : t.follow (dir.below path) =
      if HasLongName path then .error .nameTooLong else .ok (lexicalPlace dir ++ path) := by
    rw [follow, Path.below, List.foldlM_append]
    change (t.follow dir >>= fun place => path.foldlM t.step place) = _
    rw [hfollow]
    exact foldlM_step_of_liesBelow hat hbelow
  have hshown : (dir.below path).text.toList.contains (Char.ofNat 0) = false := by simpa using hnul
  rw [state_eq_refused, reach, hshown, if_neg Bool.false_ne_true, hthrough]
  refine and_congr_right ?_
  rintro rfl
  by_cases hpath : maxPath < (dir.below path).text.utf8ByteSize
  · rw [if_pos hpath]
    exact iff_of_true rfl (Or.inl hpath)
  · rw [if_neg hpath, or_iff_right hpath]
    by_cases hlong : HasLongName path
    · rw [if_pos hlong]
      exact iff_of_true rfl hlong
    · rw [if_neg hlong]
      refine iff_of_false (fun h => ?_) hlong
      cases h

end

/-! ## Round trips -/

/-- A path that enters a directory and leaves it again some times before it goes on. -/
def roundTrips (name : String) (rest : List String) : Nat → List String
  | 0 => rest
  | n + 1 => name :: above :: roundTrips name rest n

variable {name : String} {rest : List String}

theorem roundTrips_append (rest' : List String) (n : Nat) :
    roundTrips name rest n ++ rest' = roundTrips name (rest ++ rest') n := by
  induction n with
  | zero => rfl
  | succ n ih => rw [roundTrips, List.cons_append, List.cons_append, ih, roundTrips]

theorem roundTrips_ne_nil (h : rest ≠ []) (n : Nat) : roundTrips name rest n ≠ [] := by
  cases n with
  | zero => exact h
  | succ n => exact List.cons_ne_nil _ _

theorem intercalate_roundTrips (h : rest ≠ []) (n : Nat) :
    "/".intercalate (roundTrips name rest (n + 1)) =
      name ++ "/" ++ (above ++ "/" ++ "/".intercalate (roundTrips name rest n)) := by
  have hne : roundTrips name rest n ≠ [] := roundTrips_ne_nil h n
  obtain ⟨c, cs, hcs⟩ := List.exists_cons_of_ne_nil hne
  rw [roundTrips, hcs, String.intercalate_cons_cons, String.intercalate_cons_cons]

theorem text_roundTrips (h : rest ≠ []) (n : Nat) : (Path.mk .none (roundTrips name rest n)).text =
    "/".intercalate (roundTrips name rest n) := by
  rw [Path.text_of_ne_nil (roundTrips_ne_nil h n), Path.Root.text, String.empty_append]

theorem text_below_roundTrips (h : rest ≠ []) (rest' : List String) (n : Nat) :
    ((Path.mk .none (roundTrips name rest n)).below rest').text =
      "/".intercalate (roundTrips name (rest ++ rest') n) := by
  rw [Path.below, roundTrips_append]
  exact text_roundTrips (List.append_ne_nil_of_left_ne_nil h rest') n

/-- Each round trip makes the text longer by the name, two slashes and two dots. -/
theorem utf8ByteSize_roundTrips (h : rest ≠ []) (n : Nat) :
    ("/".intercalate (roundTrips name rest n)).utf8ByteSize =
      n * (name.utf8ByteSize + 4) + ("/".intercalate rest).utf8ByteSize := by
  have hslash : ("/" : String).utf8ByteSize = 1 := rfl
  have habove : above.utf8ByteSize = 2 := rfl
  induction n with
  | zero => rw [roundTrips, Nat.zero_mul, Nat.zero_add]
  | succ n ih =>
    rw [intercalate_roundTrips h]
    simp only [String.utf8ByteSize_append, ih, hslash, habove]
    ring

theorem not_mem_roundTrips {c : Char} (h : rest ≠ []) (hname : c ∉ name.toList)
    (hrest : c ∉ ("/".intercalate rest).toList) (hslash : c ≠ '/') (hdot : c ≠ '.') (n : Nat) :
    c ∉ ("/".intercalate (roundTrips name rest n)).toList := by
  have hslash' : c ∉ ("/" : String).toList := by simpa using hslash
  have habove : c ∉ above.toList := by simpa [above] using hdot
  induction n with
  | zero => exact hrest
  | succ n ih =>
    rw [intercalate_roundTrips h]
    simp only [String.toList_append, List.mem_append, hname, hslash', habove, ih, or_self,
      not_false_eq_true]

/-- Round trips lead back to where they start. -/
theorem foldlM_step_roundTrips {t : FileTree α} {place : List String}
    (hplace : t.at? place = some .directory) (hname : isEntry name = true)
    (hdirectory : t.nodes.get? (place ++ [name]) = some .directory)
    (hshort : name.utf8ByteSize ≤ maxComponent) (rest : List String) (n : Nat) :
    (roundTrips name rest n).foldlM t.step place = rest.foldlM t.step place := by
  have hin : t.at? (place ++ [name]) = some .directory := by
    rw [at?_of_entry t place [] hname, hdirectory]
  have hback : t.step (place ++ [name]) above = .ok place := by
    obtain ⟨hne, hroot⟩ := isEntry_iff.1 hname
    have hnotRoot : place ++ [name] ≠ root := by
      cases place with
      | nil => exact hroot
      | cons c cs => simp [root]
    have henter : enter (place ++ [name]) above = place := by simp [enter, hnotRoot, hne]
    have habove : ¬ maxComponent < above.utf8ByteSize := by decide
    simp only [step, hin, if_neg habove, henter]
  induction n with
  | zero => rfl
  | succ n ih =>
    rw [roundTrips, List.foldlM_cons, step_of_entry hplace hname, if_neg (Nat.not_lt.2 hshort)]
    change (t.step (place ++ [name]) above >>= fun next => (roundTrips name rest n).foldlM t.step next) = _
    rw [hback]
    exact ih

end FileTree

end Exif
