/-!
# Removing columns

Columns to remove are named by pairs of a first and a last column, counted from 1; a first column
without a last one removes everything from there on.  The pairs are turned into a list of signed
widths: a positive width keeps that many columns, a negative one discards them, and the last entry
says whether the rest of the line is kept (-1) or cut off (0).

* `ColumnPairs.Error` — why a list of columns is refused.
* `ColumnPairs.widths` — the signed widths for a list of columns.
-/

set_option autoImplicit false

namespace ColumnFold
namespace ColumnPairs

/-- Why a list of columns is refused. -/
inductive Error where
  /-- Columns are counted from 1. -/
  | invalidColumn (column : Int)
  /-- A pair begins within or before the pair before it. -/
  | overlap (first : Int)
  /-- A pair ends before it begins. -/
  | reversed (first last : Int)
deriving DecidableEq

/-- The complaint about a refused list of columns. -/
def Error.message : Error → String
  | .invalidColumn column => s!"invalid column number '{column}'"
  | .overlap first => s!"bad range: column {first} overlaps a previous range"
  | .reversed first last => s!"bad range: {first},{last}"

/-- The width of the columns kept from `next` to before `first`, if there are any. -/
def gap (next first : Int) : List Int :=
  if first > next then [first - next] else []

/-- The signed widths for the columns from `next` on. -/
def widthsFrom (next : Int) : List Int → Except Error (List Int)
  | [] => .ok [-1]
  | [first] =>
    if first < next then .error (.overlap first) else .ok (gap next first ++ [0])
  | first :: last :: rest =>
    if first < next then .error (.overlap first)
    else if last < first then .error (.reversed first last)
    else do
      let widths ← widthsFrom (last + 1) rest
      return gap next first ++ -(last - first + 1) :: widths

/-- The signed widths that remove the given columns. -/
def widths (columns : List Int) : Except Error (List Int) :=
  match columns.find? (· ≤ 0) with
  | some column => .error (.invalidColumn column)
  | none => widthsFrom 1 columns

end ColumnPairs
end ColumnFold
