import ColumnFold.Proofs.Cutting
import ColumnFold.Proofs.Fields
import Mathlib.Algebra.Ring.Nat

/-!
# Fields as stretches of columns

In a line of single columns a field needs no cutting: it is the stretch of the line that begins
where the widths before it end.  `columnSlices` says so by positions alone.  A field is there if the
line reaches beyond its beginning, even if it is then empty; the last one is not there at all if its
width is zero.

* `columnSlices` — the fields of a line by their positions.
* `Config.writtenLines_eq_columnSlices` — what is written for a line of single columns.
-/

set_option autoImplicit false

namespace ColumnFold

/-! ## Positions -/

/-- How many columns the first `i` widths take together, kept or not. -/
def offset (widths : List Int) (i : Nat) : Nat := ((widths.take i).map Int.natAbs).sum

/-- The cells from position `start` to before position `stop`. -/
def stretch (cells : List Cell) (start stop : Nat) : List Cell := (cells.take stop).drop start

/-- The field of the width number `i`: the stretch of the line from the beginning of the field on.
It is not kept if the width is negative, and not there if the line does not reach beyond its
beginning. -/
def innerSlice? (init : List Int) (cells : List Cell) (i : Nat) : Option (List Cell) :=
  let width := init.getD i 0
  if 0 ≤ width ∧ offset init i < cells.length then
    some (stretch cells (offset init i) (offset init i + width.natAbs))
  else none

/-- The last field, if the line reaches beyond its beginning `start`: a stretch, or the rest of the
line, or nothing. -/
def lastSlice (start : Nat) (last : Int) (cells : List Cell) : List (List Cell) :=
  if start < cells.length then
    if 0 < last then [stretch cells start (start + last.natAbs)]
    else if last < 0 then [cells.drop start]
    else []
  else []

/-- The fields that the widths `init` and the last width `last` keep of a line. -/
def columnSlices (init : List Int) (last : Int) (cells : List Cell) : List (List Cell) :=
  (List.range init.length).filterMap (innerSlice? init cells) ++
    lastSlice (offset init init.length) last cells

theorem offset_zero (widths : List Int) : offset widths 0 = 0 := rfl

theorem offset_cons_succ (width : Int) (widths : List Int) (i : Nat) :
    offset (width :: widths) (i + 1) = width.natAbs + offset widths i := by
  simp [offset]

theorem stretch_add (cells : List Cell) (n start stop : Nat) :
    stretch cells (n + start) (n + stop) = stretch (cells.drop n) start stop := by
  rw [stretch, stretch, List.take_drop, List.drop_drop]

theorem add_lt_length_iff (n start : Nat) (cells : List Cell) :
    n + start < cells.length ↔ start < (cells.drop n).length := by
  rw [List.length_drop]
  omega

theorem innerSlice?_zero (width : Int) (init : List Int) {cells : List Cell} (h : cells ≠ []) :
    innerSlice? (width :: init) cells 0 =
      if 0 ≤ width then some (cells.take width.natAbs) else none := by
  have hpos := List.length_pos_iff.2 h
  simp [innerSlice?, offset_zero, hpos, stretch]

/-- After the first field the others begin anew in the rest of the line. -/
theorem innerSlice?_succ (width : Int) (init : List Int) (cells : List Cell) (i : Nat) :
    innerSlice? (width :: init) cells (i + 1) =
      innerSlice? init (cells.drop width.natAbs) i := by
  simp only [innerSlice?, List.getD_cons_succ, offset_cons_succ, add_lt_length_iff, Nat.add_assoc,
    stretch_add]

theorem lastSlice_add (n start : Nat) (last : Int) (cells : List Cell) :
    lastSlice (n + start) last cells = lastSlice start last (cells.drop n) := by
  simp only [lastSlice, add_lt_length_iff, Nat.add_assoc, stretch_add, List.drop_drop]

theorem columnSlices_cons (width : Int) (init : List Int) (last : Int) {cells : List Cell}
    (h : cells ≠ []) :
    columnSlices (width :: init) last cells =
      (if 0 ≤ width then [cells.take width.natAbs] else []) ++
        columnSlices init last (cells.drop width.natAbs) := by
  have hinner : innerSlice? (width :: init) cells ∘ Nat.succ =
      innerSlice? init (cells.drop width.natAbs) :=
    funext fun i => innerSlice?_succ width init cells i
  rw [columnSlices, columnSlices, List.length_cons, List.range_succ_eq_map, List.filterMap_cons,
    List.filterMap_map, hinner, innerSlice?_zero width init h, offset_cons_succ, lastSlice_add]
  split <;> simp_all

theorem columnSlices_of_nil (init : List Int) (last : Int) : columnSlices init last [] = [] := by
  simp [columnSlices, innerSlice?, lastSlice]

/-! ## Lines of single columns -/

theorem Split.fit_eq_take {cells : List Cell} (h : ∀ c ∈ cells, c.width = 1) (n : Nat) :
    fit n cells = ⟨cells.take n, cells.drop n⟩ := by
  induction cells generalizing n with
  | nil => simp [fit]
  | cons c cells ih =>
    have hc : c.width = 1 := h c List.mem_cons_self
    cases n with
    | zero => simp [fit, hc]
    | succ n =>
      have hbudget : ((n + 1 : Nat) : Int) - c.width = n := by omega
      rw [fit, if_pos (by omega), hbudget, ih fun d hd => h d (List.mem_cons_of_mem c hd)]
      rfl

/-- A cut takes as many cells as the width says, where each takes one column and no rules apply. -/
theorem Breaking.cut_eq_take {b : Breaking} (hb : b.boundary = .anywhere) (hk : b.kinsoku = .free)
    {cells : List Cell} (h : ∀ c ∈ cells, c.width = 1) (n : Nat) :
    b.cut n cells = ⟨cells.take n, cells.drop n⟩ := by
  cases n with
  | zero => rfl
  | succ n =>
    rw [b.cut_eq_fit hb hk (by omega) fun c hc => Nat.le_of_eq (h c hc), Split.fit_eq_take h]

/-- **The fields that are kept are stretches of columns**, where each cell takes one column and no
rules apply. -/
theorem Plan.kept_eq_columnSlices {b : Breaking} (hb : b.boundary = .anywhere)
    (hk : b.kinsoku = .free) (init : List Int) (last : Int) {cells : List Cell}
    (h : ∀ c ∈ cells, c.width = 1) :
    kept b (init ++ [last]) cells = columnSlices init last cells := by
  induction init generalizing cells with
  | nil =>
    by_cases hc : cells = []
    · subst hc
      rw [kept_nil, columnSlices_of_nil]
    · have hpos := List.length_pos_iff.2 hc
      rw [List.nil_append, kept_singleton b last hc]
      show _ = lastSlice 0 last cells
      rcases Int.lt_trichotomy last 0 with hlast | rfl | hlast
      · have hnot : ¬0 < last := Int.not_lt.2 (Int.le_of_lt hlast)
        simp [lastSlice, hpos, hlast, hnot]
      · simp [lastSlice]
      · obtain ⟨n, rfl⟩ := Int.eq_ofNat_of_zero_le (Int.le_of_lt hlast)
        have hnot : ¬(n : Int) < 0 := Int.not_lt.2 (Int.le_of_lt hlast)
        rw [if_neg hnot, if_neg (Int.ne_of_gt hlast), b.cut_eq_take hb hk h, lastSlice, if_pos hpos,
          if_pos hlast]
        simp [stretch]
  | cons width init ih =>
    by_cases hc : cells = []
    · subst hc
      rw [kept_nil, columnSlices_of_nil]
    · rw [List.cons_append, kept_cons b width (by simp) hc, b.cut_eq_take hb hk h,
        columnSlices_cons width init last hc]
      exact congrArg _ (ih fun c hmem => h c (List.mem_of_mem_drop hmem))

/-! ## What is written -/

/-- **Fields are stretches of columns.**  For at least two widths and a line of single columns,
the stretches that the widths keep are written in order with the separator between them, and then
the terminator of the line. -/
theorem Config.writtenLines_eq_columnSlices (init : List Int) (last default : Int)
    (hinit : init ≠ []) (separator : String) (files : List String) (line : Text)
    (h : ∀ c ∈ FoldOptions.default.cells (Line.body line), c.isEscape = false ∧ c.width = 1) :
    (ofPlan (.ofWidths default (init ++ [last])) separator files).writtenLines [line] =
      .ok [List.intercalate (Text.ofString separator)
        ((columnSlices init last (FoldOptions.default.cells (Line.body line))).map Cell.spell) ++
          Line.terminator line] := by
  have hattr : Cell.NoAttributes (FoldOptions.default.cells (Line.body line)) := fun c hc he => by
    rw [(h c hc).1] at he
    cases he
  rw [Plan.ofWidths_concat default hinit, writtenLines_ofPlan,
    foldLine_several init last separator files hattr,
    Plan.kept_eq_columnSlices rfl rfl init last fun c hc => (h c hc).2]

theorem Config.writtenLines_eq_columnSlices_short_line :
    let line := Text.ofString "abcdef\r\n"
    let u := FoldOptions.default.cells (Line.body line)
    [2, -1, 0, 3] ≠ ([] : List Int) ∧ (∀ c ∈ u, c.isEscape = false ∧ c.width = 1) ∧
      (ofPlan (.ofWidths 72 ([2, -1, 0, 3] ++ [-1])) "|" []).writtenLines [line] =
        .ok [List.intercalate (Text.ofString "|")
          ((columnSlices [2, -1, 0, 3] (-1) u).map Cell.spell) ++ Line.terminator line] ∧
      columnSlices [2, -1, 0, 3] (-1) u = [u.take 2, [], (u.drop 3)] := by
  intro line u
  have h : ∀ c ∈ u, c.isEscape = false ∧ c.width = 1 := by decide +kernel
  exact ⟨by decide, h, Config.writtenLines_eq_columnSlices _ _ _ (by decide) _ _ _ h,
    by decide +kernel⟩

end ColumnFold
