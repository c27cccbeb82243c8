import Exif.Text.Clean
import Mathlib.Data.List.DropRight

/-! A text that was cleaned has something in it and no blank at its ends. -/

namespace Exif.Text

/-- A list with no character of a class at either end. -/
structure Trimmed (p : Char → Bool) (cs : List Char) : Prop where
  head : ∀ c, cs.head? = some c → p c = false
  last : ∀ c, cs.getLast? = some c → p c = false

/-- Cutting at the end leaves a beginning. -/
theorem trimEnd_prefix (p : Char → Bool) (cs : List Char) : trimEnd p cs <+: cs :=
  List.rdropWhile_prefix p cs

theorem head_dropWhile {p : Char → Bool} {cs : List Char} {c : Char}
    (h : (cs.dropWhile p).head? = some c) : p c = false := by
  have hnot := List.head?_dropWhile_not p cs
  rw [h] at hnot
  simpa using hnot

theorem last_trimEnd {p : Char → Bool} {cs : List Char} {c : Char}
    (h : (trimEnd p cs).getLast? = some c) : p c = false := by
  rw [trimEnd, List.getLast?_reverse] at h
  exact head_dropWhile h

theorem trimmed_trim (p : Char → Bool) (cs : List Char) : Trimmed p (trim p cs) where
  head c h := by
    -- what is first now was first before the end was cut
    have hfirst : (cs.dropWhile p).head? = some c := by
      obtain ⟨rest, hrest⟩ := trimEnd_prefix p (cs.dropWhile p)
      rw [trim] at h
      rw [← hrest, List.head?_append, h]
      rfl
    exact head_dropWhile hfirst
  last _ h := last_trimEnd h

theorem clean_eq_some {s t : String} :
    clean s = some t ↔ t.toList = cleanChars s.toList ∧ t ≠ "" := by
  unfold clean
  rcases cleanChars s.toList with _ | ⟨c, cs⟩
  · simp
  · simp only [Option.some.injEq]
    constructor
    · rintro rfl
      simp
    · rintro ⟨ht, -⟩
      rw [← ht, String.ofList_toList]

theorem trimmed_clean {s t : String} (h : clean s = some t) : t ≠ "" ∧ Trimmed isBlank t.toList := by
  obtain ⟨ht, hne⟩ := clean_eq_some.1 h
  rw [ht, cleanChars]
  exact ⟨hne, trimmed_trim isBlank _⟩

end Exif.Text
