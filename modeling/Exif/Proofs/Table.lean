import Exif.Table
import Mathlib.Data.List.Forall2

/-! Tables made of rows. Leaving out leading columns can be done before or after the table is made, as
columns do not look at each other. How cells are shown is left to the table: whatever its display keeps of
every cell, the table keeps of all of them. A data frame changes a cell only if it is an integer that
turns into a double. -/

namespace Exif

/-- Every cell is related to what is shown for it, whatever the column. -/
def Display.Keeps (display : Display) (R : Cell → Cell → Prop) : Prop :=
  ∀ column c, R c (display column c)

/-- What a data frame may show for a cell: the cell, or the integer that the nearest double is. -/
def Cell.ShownAs (c : Cell) (shown : Cell) : Prop :=
  shown = c ∨ ∃ n, c = .value (.int n) ∧ shown = .value (.int (DataFrame.nearest n))

theorem DataFrame.keeps_shownAs : Display.Keeps display Cell.ShownAs := by
  intro column c
  match c with
  | .value (.int n) =>
    dsimp only [display]
    split
    · exact Or.inr ⟨n, rfl, rfl⟩
    · exact Or.inl rfl
  | .value (.double x) => exact Or.inl rfl
  | .value (.text s) => exact Or.inl rfl
  | .path p => exact Or.inl rfl
  | .empty => exact Or.inl rfl

namespace Table

variable {display : Display} {columns : List String} {rows : List (List Cell)}

theorem column_drop (rows : List (List Cell)) (k i : Nat) :
    column (rows.map (List.drop k)) i = column rows (k + i) := by
  simp only [column, List.filterMap_map, Function.comp_def, List.getElem?_drop]

theorem range_drop (n k : Nat) : (List.range n).drop k = (List.range (n - k)).map (k + ·) := by
  apply List.ext_getElem
  · simp
  · intro i _ _
    simp

theorem ofRows_of_ne_nil (display : Display) (columns : List String) (h : rows ≠ []) :
    ofRows display columns rows = ⟨columns, rows.map
      (List.zipWith (fun i c => display (column rows i) c) (List.range columns.length))⟩ := by
  rw [ofRows, if_neg (mt List.isEmpty_iff.1 h)]

/-- A table without its first columns is the table of the rows without their first cells. -/
theorem ofRows_drop (display : Display) (columns : List String) (rows : List (List Cell)) (k : Nat) :
    ofRows display (columns.drop k) (rows.map (List.drop k)) =
      ⟨(ofRows display columns rows).columns.drop k,
        (ofRows display columns rows).rows.map (List.drop k)⟩ := by
  by_cases h : rows = []
  · simp [h, ofRows]
  · rw [ofRows_of_ne_nil _ _ h, ofRows_of_ne_nil _ _ (mt List.map_eq_nil_iff.1 h)]
    simp only [List.map_map, Function.comp_def, List.drop_zipWith, column_drop, List.length_drop,
      range_drop, List.zipWith_map_left]

theorem columns_ofRows_eq_nil (display : Display) (h : columns ≠ []) :
    (ofRows display columns rows).columns = [] ↔ rows = [] := by
  by_cases hrows : rows = []
  · exact iff_of_true (by rw [hrows]; rfl) hrows
  · rw [ofRows_of_ne_nil _ _ hrows]
    exact iff_of_false h hrows

/-- Cells beside at least as many numbers of columns. -/
theorem forall₂_zipWith {R : Cell → Cell → Prop} {f : Nat → Cell → Cell} (hf : ∀ i c, R c (f i c))
    {ns : List Nat} {row : List Cell} (h : row.length ≤ ns.length) :
    List.Forall₂ R row (List.zipWith f ns row) := by
  induction row generalizing ns with
  | nil => simp
  | cons c row ih =>
    cases ns with
    | nil => simp at h
    | cons n ns => exact .cons (hf n c) (ih (Nat.le_of_succ_le_succ h))

/-- A table shows all cells of all rows, if no row is longer than its head. -/
theorem forall₂_ofRows {R : Cell → Cell → Prop} (hdisplay : display.Keeps R)
    (h : ∀ row ∈ rows, row.length ≤ columns.length) :
    List.Forall₂ (List.Forall₂ R) rows (ofRows display columns rows).rows := by
  by_cases hrows : rows = []
  · subst hrows
    exact .nil
  · rw [ofRows_of_ne_nil _ _ hrows, List.forall₂_map_right_iff, List.forall₂_same]
    intro row hrow
    exact forall₂_zipWith (fun i c => hdisplay (column rows i) c) (by simpa using h row hrow)

end Table

end Exif
