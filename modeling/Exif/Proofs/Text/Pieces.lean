import Mathlib.Data.List.TakeWhile

/-! The first piece of a text, up to a separator, and the last one, after all separators. -/

namespace Exif.Text

/-- The first piece of a text is all of it, or a separator comes next. -/
theorem takeWhile_ne_eq_iff {sep : Char} {piece cs : List Char} (h : sep ∉ piece) :
    cs.takeWhile (· != sep) = piece ↔ cs = piece ∨ ∃ rest, cs = piece ++ sep :: rest := by
  have hpiece : ∀ c ∈ piece, (c != sep) = true := by
    intro c hc
    rw [bne_iff_ne]
    rintro rfl
    exact h hc
  constructor
  · rintro rfl
    have hsplit := List.takeWhile_append_dropWhile (p := (· != sep)) (l := cs)
    rcases hrest : cs.dropWhile (· != sep) with _ | ⟨c, rest⟩
    · left
      rw [hrest, List.append_nil] at hsplit
      exact hsplit.symm
    · right
      have hc : c = sep := by
        have hnot := List.head?_dropWhile_not (· != sep) cs
        rw [hrest] at hnot
        simpa using hnot
      rw [hrest, hc] at hsplit
      exact ⟨rest, hsplit.symm⟩
  · rintro (rfl | ⟨rest, rfl⟩)
    · exact List.takeWhile_eq_self_iff.2 hpiece
    · rw [List.takeWhile_append_of_pos hpiece]
      simp

theorem not_mem_takeWhile_ne (sep : Char) (cs : List Char) : sep ∉ cs.takeWhile (· != sep) := by
  intro hmem
  simpa using List.mem_takeWhile_imp hmem

/-- The last piece of a text is all of it, or a separator stands before it. -/
theorem lastPiece_eq_iff {sep : Char} {piece cs : List Char} (h : sep ∉ piece) :
    (cs.reverse.takeWhile (· != sep)).reverse = piece ↔ cs = piece ∨ ∃ rest, cs = rest ++ sep :: piece := by
  have hpiece : sep ∉ piece.reverse := by simpa using h
  rw [List.reverse_eq_iff, takeWhile_ne_eq_iff hpiece, List.reverse_inj]
  refine or_congr_right ⟨?_, ?_⟩
  · rintro ⟨rest, hrest⟩
    rw [List.reverse_eq_iff] at hrest
    exact ⟨rest.reverse, by simpa using hrest⟩
  · rintro ⟨rest, rfl⟩
    exact ⟨rest.reverse, by simp⟩

end Exif.Text
