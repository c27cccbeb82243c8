import Exif.FileTree
import Exif.Proofs.Results
import Mathlib.Data.String.Basic

/-! Looking up a path: what it leads to is told in every case but one, that of a path or a name that is
too long. -/

namespace Exif.FileTree

variable {α : Type}

/-- A fault of a path names that path. -/
theorem reach_fault {t : FileTree α} {p q : Path} {what : PathFault}
    (h : t.reach p = .error (.fault what q)) : q = p := by
  unfold reach at h
  split at h
  · exact nomatch h
  · split at h
    · exact (PathError.fault.inj (Except.error.inj h)).2.symm
    · obtain ⟨fault, -, hfault⟩ := mapError_eq_error.1 h
      exact (PathError.fault.inj hfault).2.symm

/-- A path is refused if looking it up ends at its length, and for no other reason. -/
theorem state_eq_refused {t : FileTree α} {p : Path} {e : PathError} :
    t.state p = .refused e ↔ e = .fault .nameTooLong p ∧ t.reach p = .error e := by
  unfold state
  cases hr : t.reach p with
  | ok place =>
    refine ⟨fun h => ?_, fun h => nomatch h.2⟩
    cases hat : t.at? place with
    | none => simp [Except.map, hat] at h
    | some node => cases node <;> simp [Except.map, hat] at h
  | error e' =>
    match e' with
    | .embeddedNul | .fault .notFound q | .fault .alreadyExists q | .fault .notADirectory q |
      .fault .isADirectory q =>
      refine iff_of_false (fun h => nomatch h) ?_
      rintro ⟨rfl, h⟩
      exact nomatch h
    | .fault .nameTooLong q =>
      obtain rfl := reach_fault hr
      simp [Except.map, eq_comm]

theorem state_of_reach {t : FileTree α} {p : Path} {place : List String} (h : t.reach p = .ok place)
    (hat : t.at? place = some .directory) : t.state p = .directory := by
  simp [state, h, Except.map, hat]

/-! ## Long names -/

theorem utf8ByteSize_replicate (c : Char) (n : Nat) :
    (String.ofList (List.replicate n c)).utf8ByteSize = n * c.utf8Size := by
  rw [String.utf8ByteSize_ofList]
  induction n with
  | zero => simp
  | succ n ih => rw [List.replicate_succ, String.utf8Len, ih, Nat.succ_mul]

theorem not_mem_replicate {c d : Char} (h : c ≠ d) (n : Nat) :
    c ∉ (String.ofList (List.replicate n d)).toList := by
  rw [String.toList_ofList]
  exact fun hmem => h (List.eq_of_mem_replicate hmem)

/-- A name that is too long is refused in every tree. -/
theorem state_of_long (t : FileTree α) {name : String}
    (hnul : Char.ofNat 0 ∉ name.toList) (hpath : name.utf8ByteSize ≤ maxPath)
    (hlong : maxComponent < name.utf8ByteSize) :
    t.state ⟨.none, [name]⟩ = .refused (.fault .nameTooLong ⟨.none, [name]⟩) := by
  have htext : (Path.mk .none [name]).text = name := by
    simp [Path.text, Path.Root.text]
  have hshown : name.toList.contains (Char.ofNat 0) = false := by simpa using hnul
  have hfollow : t.follow ⟨.none, [name]⟩ = .error .nameTooLong := by
    simp [follow, step, start, at?, hlong, bind, Except.bind]
  refine state_eq_refused.2 ⟨rfl, ?_⟩
  rw [reach, htext, hshown, if_neg Bool.false_ne_true, if_neg (Nat.not_lt.2 hpath), hfollow]
  rfl

end Exif.FileTree
