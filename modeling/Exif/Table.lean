import Exif.Quantity

/-!
Tables of summaries, with one row per picture. A table without rows has no columns. How a table shows
a cell may depend on its column. Data frames show integers as they are in a column without gaps; in a
column with gaps they turn them into doubles, unless they do not fit machine words, and then show the
integers that these doubles are.
-/

namespace Exif

/-- A cell: a text, a path, a value of a quantity, or nothing. -/
inductive Cell
  | path (value : Path)
  | value (v : TagValue)
  | empty

structure Table where
  columns : List String
  rows : List (List Cell)

def Cell.ofOption : Option TagValue → Cell
  | some v => value v
  | none => empty

/-- How a table shows a cell of a column with given cells. -/
abbrev Display := List Cell → Cell → Cell

/-! ## Data frames -/

namespace DataFrame

def integers (column : List Cell) : List Int :=
  column.filterMap fun
    | .value (.int n) => some n
    | _ => none

def hasGap (column : List Cell) : Bool :=
  column.any fun
    | .empty => true
    | _ => false

def fitsSigned (n : Int) : Bool := -0x8000000000000000 ≤ n && n < 0x8000000000000000

def fitsUnsigned (n : Int) : Bool := 0 ≤ n && n < 0x10000000000000000

/-- Whether the integers of a column are turned into doubles: the column has a gap, and words of one
kind can hold all its integers. -/
def rounds (column : List Cell) : Bool :=
  let ns := integers column
  hasGap column && (ns.all fitsSigned || ns.all fitsUnsigned)

def nearest (n : Int) : Int := (Double.truncate? (Double.ofInt n)).getD n

def display : Display
  | column, .value (.int n) => .value (.int (if rounds column then nearest n else n))
  | _, c => c

end DataFrame

namespace Table

def column (rows : List (List Cell)) (i : Nat) : List Cell := rows.filterMap (·[i]?)

def ofRows (display : Display) (columns : List String) (rows : List (List Cell)) : Table :=
  let shown (row : List Cell) : List Cell :=
    List.zipWith (fun i c => display (column rows i) c) (List.range columns.length) row
  if rows.isEmpty then ⟨[], []⟩ else ⟨columns, rows.map shown⟩

def quantityColumns : List String := Quantity.all.map Quantity.name

def cells (summary : List (Quantity × Option TagValue)) : List Cell :=
  summary.map fun q => .ofOption q.2

def summaryRows (stores : List TagStore) : Except Failure (List (List Cell)) :=
  stores.mapM fun s => return cells (← s.summary)

def ofStores (display : Display) (stores : List TagStore) : Except Failure Table :=
  (summaryRows stores).map (ofRows display quantityColumns)

end Table

end Exif
