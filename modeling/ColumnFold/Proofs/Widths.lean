import ColumnFold.Proofs.Cutting
import ColumnFold.Proofs.Span

/-!
# How wide a fragment is

A fragment may be wider than the width it was cut for, but only in two ways: it takes in closing
punctuation, or it holds a glyph that is too wide for any field of that width and nothing else that
takes columns.

* `Breaking.Bounded` — the bound.
* `Breaking.bounded_cut` — every cut for a positive width keeps to it.
* `FoldOptions.width_bound` — so does every fragment of a line.
-/

set_option autoImplicit false

namespace ColumnFold

open Cell

/-- The bound on the cells that are cut for a width. -/
inductive Breaking.Bounded (b : Breaking) (width : Int) (cells : List Cell) : Prop where
  /-- The cells fit. -/
  | fits (h : columns cells ≤ width)
  /-- Cells that fit are followed by closing punctuation that was taken in. -/
  | runIn (hk : b.kinsoku = .strict) (hc : columns cells ≤ width + b.runIn) (part tail : List Cell)
      (h : cells = part ++ tail) (hpart : columns part ≤ width)
      (htail : ∀ c ∈ tail, c.isEscape = true ∨ c.isClosing = true)
  /-- The only cell with columns is a glyph that is too wide. -/
  | forced (wide : Cell) (h : cells.filter (0 < ·.width) = [wide]) (hw : width < wide.width)

theorem Cell.filter_eq_nil_of_columns {cells : List Cell} (h : columns cells = 0) :
    cells.filter (0 < ·.width) = [] := by
  rw [List.filter_eq_nil_iff]
  intro c hc
  simp [columns_eq_zero_iff.1 h c hc]

/-- If the first glyph is forced, it is the only one with columns. -/
theorem Split.filter_force {s : Split} {c : Cell} {rest : List Cell} (hs : s.rest = c :: rest)
    (h : columns s.taken = 0) (hc : 0 < c.width) :
    s.force.taken.filter (0 < ·.width) = [c] := by
  have hzero : (rest.takeWhile (·.width == 0)).filter (0 < ·.width) = [] := by
    rw [List.filter_eq_nil_iff]
    intro d hd
    have hd0 := List.all_eq_true.1 List.all_takeWhile d hd
    rw [beq_iff_eq] at hd0
    rw [decide_eq_true_eq]
    omega
  rw [force, hs]
  show (s.taken ++ c :: rest.takeWhile (·.width == 0)).filter (0 < ·.width) = [c]
  rw [List.filter_append, filter_eq_nil_of_columns h, List.nil_append,
    List.filter_cons_of_pos (by simpa using hc), hzero]

/-- A cut that moves back takes no more columns. -/
theorem Split.columns_runOut_le (budget : Int) (s : Split) :
    columns (s.runOut budget).taken ≤ columns s.taken := by
  rw [runOut.eq_def]
  split
  · exact Nat.le_refl _
  · rename_i c cells hs
    have h := congrArg columns (all_slide isOpening budget cells.reverse)
    rw [all, columns_append, columns_reverse] at h
    rw [hs]
    simp only [columns_cons, columns_reverse]
    omega

/-- **Every cut for a positive width keeps to the bound.** -/
theorem Breaking.bounded_cut (b : Breaking) {width : Int} (hw : 0 < width) (cells : List Cell) :
    b.Bounded width (b.cut width cells).taken := by
  obtain ⟨-, hcut⟩ | ⟨hrest, hzero, hcut⟩ | ⟨hover, hcut⟩ := b.cut_cases hw cells
  · rw [hcut]
    exact .fits (Split.columns_fit_le (Int.le_of_lt hw) cells)
  · obtain ⟨c, rest, hc⟩ := List.exists_cons_of_ne_nil hrest
    have hlt := Split.lt_of_fit_rest hc
    rw [hzero] at hlt
    rw [hcut]
    exact .forced c (Split.filter_force hc hzero (by omega)) (by omega)
  · have hplain := b.columns_plain_le hw cells
    obtain ⟨c, rest, hs, hc⟩ := b.plain_rest hw hover
    rw [hcut]
    cases hk : b.kinsoku with
    | free =>
      rw [atPunctuation, hk]
      exact .fits hplain
    | strict =>
      obtain ⟨-, hp⟩ | ⟨hne, hp⟩ := b.atPunctuation_cases hk hs hc
      · have hle := Split.columns_runOut_le b.runOut (b.plain width cells)
        rw [hp]
        exact .fits (by omega)
      · have hle := Split.columns_slide_le hne
        rw [hp]
        refine .runIn hk ?_ _ _ rfl hplain Split.isEscape_or_of_mem_slide
        rw [Split.runIn, columns_append]
        omega

namespace FoldOptions

/-- **The width of fragments.**  A line is folded into the fragments of its spans.  A span that was
cut for a positive width keeps to the bound, and one that was cut for any other width is empty. -/
theorem width_bound (o : FoldOptions) {layout : Layout} (h : layout.Ends) (line : Text) :
    o.fold layout line = (o.spans layout line).map (Span.text o (o.row line)) ∧
      ∀ s ∈ o.spans layout line, ∀ width, s.width = some width →
        (width ≤ 0 → s.cells (o.row line) = []) ∧
          (0 < width → o.breaking.Bounded width (s.cells (o.row line))) := by
  refine ⟨o.fold_eq_map_text h line, fun s hs width hwidth => ⟨fun hw => ?_, fun hw => ?_⟩⟩
  · rw [(o.placed_of_mem_spans h line s hs).cells_eq width hwidth, Breaking.cut, if_pos hw]
  · rw [(o.placed_of_mem_spans h line s hs).cells_eq width hwidth]
    exact o.breaking.bounded_cut hw _

theorem width_bound_bracket_and_ideograph :
    let o : FoldOptions := { default with breaking := ⟨.anywhere, .strict, 2, 2⟩ }
    let line := Text.ofString "ab)中"
    let layout := Layout.fields [2, 0, 1] false
    let bracket : Span := ⟨0, 3, some 2, by decide⟩
    let nothing : Span := ⟨3, 3, some 0, by decide⟩
    let ideograph : Span := ⟨3, 4, some 1, by decide⟩
    layout.Ends ∧ o.spans layout line = [bracket, nothing, ideograph] ∧
      o.fold layout line = [bracket, nothing, ideograph].map (Span.text o (o.row line)) ∧
      Cell.columns (bracket.cells (o.row line)) = 3 ∧
      o.breaking.Bounded 2 (bracket.cells (o.row line)) ∧
      nothing.cells (o.row line) = [] ∧
      Cell.columns (ideograph.cells (o.row line)) = 2 ∧
      o.breaking.Bounded 1 (ideograph.cells (o.row line)) := by
  intro o line layout bracket nothing ideograph
  have h : layout.Ends := Layout.ends_fields _ _
  have hspans : o.spans layout line = [bracket, nothing, ideograph] := by decide +kernel
  obtain ⟨hfold, hbound⟩ := width_bound o h line
  rw [hspans] at hfold hbound
  exact ⟨h, hspans, hfold, by decide +kernel, (hbound bracket (by simp) 2 rfl).2 (by decide),
    (hbound nothing (by simp) 0 rfl).1 (by decide), by decide +kernel,
    (hbound ideograph (by simp) 1 rfl).2 (by decide)⟩

end FoldOptions
end ColumnFold
