import ColumnFold.Cut
import ColumnFold.Plan

/-!
# Dividing a line

A layout divides the cells of a line into slices, one for each fragment.  Where one width is applied
again and again, the slices go on until the line is used up.  Fields go on until the line or the
widths are used up; a last width of zero ends them early, unless the last field takes the rest.

* `Slice` — the cells of a fragment.
* `Layout.slices` — the slices of a line.
-/

set_option autoImplicit false

namespace ColumnFold

/-- The cells of a fragment. -/
structure Slice where
  /-- The cells. -/
  cells : List Cell
  /-- The width that the fragment was cut for, if it was. -/
  width : Option Int
  /-- Whether the line goes on after the slice. -/
  more : Bool
deriving DecidableEq

/-- The slice that a cut takes for a width. -/
def Split.slice (s : Split) (width : Int) : Slice := ⟨s.taken, some width, !s.rest.isEmpty⟩

namespace Layout

/-- The slices of cells that are cut for the width `width` until they are used up. -/
def everySlices (b : Breaking) (width : Int) (hw : 0 < width) : List Cell → List Slice
  | [] => []
  | c :: cells =>
    (b.cut width (c :: cells)).slice width ::
      everySlices b width hw (b.cut width (c :: cells)).rest
termination_by cells => cells.length
decreasing_by exact b.cut_rest_lt hw (List.cons_ne_nil _ _)

/-- The slices of cells that are cut into one field for each width. -/
def fieldSlices (b : Breaking) (takeRest : Bool) : List Int → List Cell → List Slice
  | [], _ => []
  | _ :: _, [] => []
  | [width], cells =>
    if takeRest then [⟨cells, none, false⟩]
    else if width = 0 then []
    else [(b.cut width cells).slice width]
  | width :: widths, cells =>
    (b.cut width cells).slice width :: fieldSlices b takeRest widths (b.cut width cells).rest

/-- The slices of a line.  A single width that is not positive, or a line without cells, gives one
slice without cells. -/
def slices (b : Breaking) (layout : Layout) (cells : List Cell) : List Slice :=
  match layout with
  | .every width =>
    if hw : 0 < width then
      if cells.isEmpty then [⟨[], none, false⟩] else everySlices b width hw cells
    else [⟨[], none, false⟩]
  | .fields widths takeRest => fieldSlices b takeRest widths cells

/-- Slices of one repeated width hold all the cells, in order. -/
theorem flatMap_everySlices (b : Breaking) (width : Int) (hw : 0 < width) (cells : List Cell) :
    (everySlices b width hw cells).flatMap Slice.cells = cells := by
  fun_induction everySlices b width hw cells with
  | case1 => rfl
  | case2 c cells ih =>
    rw [List.flatMap_cons, ih]
    exact b.cut_append width (c :: cells)

theorem flatMap_fieldSlices_isPrefix (b : Breaking) (takeRest : Bool) (widths : List Int)
    (cells : List Cell) : (fieldSlices b takeRest widths cells).flatMap Slice.cells <+: cells := by
  fun_induction fieldSlices b takeRest widths cells with
  | case1 => exact List.nil_prefix
  | case2 => exact List.nil_prefix
  | case3 => simp
  | case4 => exact List.nil_prefix
  | case5 width cells _ _ _ =>
    rw [List.flatMap_cons, List.flatMap_nil, List.append_nil]
    exact ⟨_, b.cut_append width cells⟩
  | case6 width widths cells _ _ ih =>
    obtain ⟨r, hr⟩ := ih
    refine ⟨r, ?_⟩
    rw [List.flatMap_cons, List.append_assoc, hr]
    exact b.cut_append width cells

end Layout
end ColumnFold
