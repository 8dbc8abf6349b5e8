import ColumnFold.Slice

/-!
# How a layout divides the cells of a line

A layout takes slices from the front of the cells of a line, one after the other, and every slice
but the rest of the line is what one cut takes from the cells that are left.  `Division` says just
that, and it is what the proofs about folded lines go by induction on: neither the recursion that
repeats a width nor the one that goes through a list of widths is opened again.

* `Division` — slices that are taken in turn from the front of cells.
* `Layout.division_everySlices`, `Layout.division_fieldSlices` — what the two recursions do.
* `Layout.division_slices` — the slices of a line are a division of its cells.
-/

set_option autoImplicit false

namespace ColumnFold

/-! ## Slices taken in turn -/

/-- `Division b cells slices left`: the slices are taken in turn from the front of `cells`, and
`left` is what they leave. -/
inductive Division (b : Breaking) : List Cell → List Slice → List Cell → Prop where
  /-- No slice is taken. -/
  | stop (cells : List Cell) : Division b cells [] cells
  /-- A line without cells is one slice. -/
  | blank : Division b [] [⟨[], none, false⟩] []
  /-- The last slice takes all that is left. -/
  | rest {cells : List Cell} (hc : cells ≠ []) : Division b cells [⟨cells, none, false⟩] []
  /-- A slice is cut for a width from the cells that are left. -/
  | cut {cells : List Cell} {slices : List Slice} {left : List Cell} (width : Int)
      (hc : cells ≠ []) (h : Division b (b.cut width cells).rest slices left) :
      Division b cells ((b.cut width cells).slice width :: slices) left

theorem Breaking.drop_cut (b : Breaking) (width : Int) (cells : List Cell) :
    cells.drop (b.cut width cells).taken.length = (b.cut width cells).rest := by
  have h := congrArg (List.drop (b.cut width cells).taken.length) (b.cut_append width cells)
  rw [List.drop_left] at h
  exact h.symm

/-- What a division leaves is an end of the cells. -/
theorem Division.isSuffix {b : Breaking} {cells left : List Cell} {slices : List Slice}
    (h : Division b cells slices left) : left <:+ cells := by
  induction h with
  | stop cells => exact List.suffix_rfl
  | blank => exact List.suffix_rfl
  | rest hc => exact List.nil_suffix
  | @cut cells slices left width hc h ih => exact ih.trans ⟨_, b.cut_append width cells⟩

namespace Layout

/-- Whether a layout comes to an end on every line: a repeated width has to be positive. -/
def Ends : Layout → Prop
  | .every width => 0 < width
  | .fields _ _ => True

theorem ends_every {width : Int} (h : 0 < width) : (every width).Ends := h

theorem ends_fields (widths : List Int) (takeRest : Bool) : (fields widths takeRest).Ends := trivial

/-- The width that each field is cut for; a last field that takes the rest has none. -/
def fieldWidths (takeRest : Bool) : List Int → List (Option Int)
  | [] => []
  | [width] => [if takeRest then none else some width]
  | width :: widths => some width :: fieldWidths takeRest widths

theorem fieldWidths_cons (takeRest : Bool) (width : Int) {widths : List Int} (h : widths ≠ []) :
    fieldWidths takeRest (width :: widths) = some width :: fieldWidths takeRest widths := by
  cases widths with
  | nil => exact absurd rfl h
  | cons _ _ => rfl

/-! ### The two recursions, one step at a time -/

section
variable {b : Breaking} {cells : List Cell}

theorem everySlices_of_ne_nil (width : Int) (hw : 0 < width) (h : cells ≠ []) :
    everySlices b width hw cells =
      (b.cut width cells).slice width :: everySlices b width hw (b.cut width cells).rest := by
  obtain ⟨c, cells, rfl⟩ := List.exists_cons_of_ne_nil h
  rw [everySlices]

theorem fieldSlices_singleton (takeRest : Bool) (width : Int) (h : cells ≠ []) :
    fieldSlices b takeRest [width] cells =
      if takeRest then [⟨cells, none, false⟩]
      else if width = 0 then [] else [(b.cut width cells).slice width] := by
  obtain ⟨c, cells, rfl⟩ := List.exists_cons_of_ne_nil h
  rfl

theorem fieldSlices_cons (b : Breaking) (takeRest : Bool) (width : Int) {widths : List Int}
    (hw : widths ≠ []) (h : cells ≠ []) :
    fieldSlices b takeRest (width :: widths) cells =
      (b.cut width cells).slice width ::
        fieldSlices b takeRest widths (b.cut width cells).rest := by
  rw [fieldSlices]
  · exact hw
  · exact h

end

/-! ### Slices as divisions -/

theorem division_everySlices (b : Breaking) (width : Int) (hw : 0 < width) (cells : List Cell) :
    Division b cells (everySlices b width hw cells) [] := by
  fun_induction everySlices b width hw cells with
  | case1 => exact .stop []
  | case2 c cells ih => exact .cut width (List.cons_ne_nil c cells) ih

theorem width_everySlices (b : Breaking) (width : Int) (hw : 0 < width) (cells : List Cell) :
    ∀ s ∈ everySlices b width hw cells, s.width = some width := by
  fun_induction everySlices b width hw cells with
  | case1 => simp
  | case2 c cells ih =>
    intro s hs
    rcases List.mem_cons.1 hs with rfl | hs
    · rfl
    · exact ih s hs

/-- **What fields do to the cells of a line.**  They are a division of the cells, cut for the widths
from the first one on; they stop only where the cells or the widths are used up, or at a last width
of zero that does not take the rest; and they leave nothing if the last one takes the rest. -/
theorem division_fieldSlices (b : Breaking) (takeRest : Bool) (widths : List Int)
    (cells : List Cell) :
    ∃ left, Division b cells (fieldSlices b takeRest widths cells) left ∧
      (fieldSlices b takeRest widths cells).map Slice.width <+: fieldWidths takeRest widths ∧
      (left = [] ∨ (fieldSlices b takeRest widths cells).length = widths.length ∨
        takeRest = false ∧ (fieldSlices b takeRest widths cells).length + 1 = widths.length ∧
          widths.getLast? = some 0) ∧
      (takeRest = true → widths ≠ [] → left = []) := by
  fun_induction fieldSlices b takeRest widths cells with
  | case1 cells =>
    exact ⟨cells, .stop cells, List.nil_prefix, .inr (.inl rfl), fun _ h => absurd rfl h⟩
  | case2 => exact ⟨[], .stop [], List.nil_prefix, .inl rfl, fun _ _ => rfl⟩
  | case3 width cells hc ht =>
    subst ht
    exact ⟨[], .rest hc, by simp [fieldWidths], .inl rfl, fun _ _ => rfl⟩
  | case4 cells hc ht =>
    exact ⟨cells, .stop cells, List.nil_prefix, .inr (.inr ⟨by simpa using ht, rfl, rfl⟩),
      fun h _ => absurd h ht⟩
  | case5 width cells hc ht hw =>
    refine ⟨_, .cut width hc (.stop _), ?_, .inr (.inl rfl), fun h _ => absurd h ht⟩
    simp [fieldWidths, ht, Split.slice]
  | case6 width widths cells hc hws ih =>
    obtain ⟨left, hd, hp, hstop, hrest⟩ := ih
    refine ⟨left, .cut width hc hd, ?_, ?_, fun h _ => hrest h hws⟩
    · rw [fieldWidths_cons takeRest width hws, List.map_cons]
      exact (List.prefix_cons_inj _).2 hp
    · rcases hstop with h | h | ⟨ht, hl, h0⟩
      · exact .inl h
      · exact .inr (.inl (congrArg (· + 1) h))
      · refine .inr (.inr ⟨ht, congrArg (· + 1) hl, ?_⟩)
        rw [List.getLast?_cons, h0]
        rfl

theorem division_every (b : Breaking) {width : Int} (hw : 0 < width) (cells : List Cell) :
    Division b cells ((every width).slices b cells) [] := by
  rw [slices, dif_pos hw]
  cases cells with
  | nil => exact .blank
  | cons c cells => exact division_everySlices b width hw (c :: cells)

/-- The slices of a line are a division of its cells. -/
theorem division_slices (b : Breaking) {layout : Layout} (h : layout.Ends) (cells : List Cell) :
    ∃ left, Division b cells (layout.slices b cells) left := by
  cases layout with
  | every width => exact ⟨[], division_every b h cells⟩
  | fields widths takeRest =>
    obtain ⟨left, hd, -⟩ := division_fieldSlices b takeRest widths cells
    exact ⟨left, hd⟩

end Layout

end ColumnFold
