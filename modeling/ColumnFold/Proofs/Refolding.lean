import ColumnFold.Proofs.Reading
import ColumnFold.Proofs.Widths

/-!
# Folded text folds to itself

Whoever folds a fragment once more, for the width that it was cut for, gets it back whole.  The
bound on what a cut takes is also enough to be taken: cells that fit are taken at once, and a glyph
that is too wide is forced together with all the cells without columns around it.  The sequences
that are written before and after the piece have no columns, so the cells of the fragment keep to
the bound like those of the piece.  Then there is one slice, after which the line does not go on, so
no reset is added to it.

Punctuation must not move cuts here.  A piece that has taken in closing punctuation does not fit,
and the bound does not say where it would be cut.

* `Breaking.cut_of_bounded` — cells that keep to the bound are not cut.
* `FoldOptions.fold_every_eq_singleton` — a line that is not cut is its only fragment.
* `FoldChoices.fold_of_mem_fold` — fragments, folded again.
-/

set_option autoImplicit false

namespace ColumnFold

open Cell

/-! ## Cells that are not cut -/

namespace Split

theorem fit_of_columns_le {budget : Int} {cells : List Cell} (h : (columns cells : Int) ≤ budget) :
    fit budget cells = ⟨cells, []⟩ := by
  induction cells generalizing budget with
  | nil => rfl
  | cons c cells ih =>
    rw [columns_cons] at h
    rw [fit, if_pos (by omega), ih (by omega)]

theorem fit_append_cons {budget : Int} {before : List Cell} {c : Cell}
    (h : (columns before : Int) ≤ budget) (hc : budget < columns before + c.width)
    (rest : List Cell) : fit budget (before ++ c :: rest) = ⟨before, c :: rest⟩ := by
  induction before generalizing budget with
  | nil =>
    rw [columns_nil] at hc
    exact if_neg (by omega)
  | cons d before ih =>
    rw [columns_cons] at h hc
    rw [List.cons_append, fit, if_pos (by omega), ih (by omega) (by omega)]

theorem force_of_columns_rest {s : Split} {c : Cell} {rest : List Cell} (hs : s.rest = c :: rest)
    (h : columns rest = 0) : s.force = ⟨s.all, []⟩ := by
  have hzero : ∀ d ∈ rest, (d.width == 0) = true := by
    simpa using columns_eq_zero_iff.1 h
  rw [force, all, hs]
  simp only [List.takeWhile_eq_self_iff.2 hzero, List.dropWhile_eq_nil_iff.2 hzero]

end Split

namespace Breaking

variable {b : Breaking} {width : Int} {cells : List Cell}

/-- Cells without columns before and after others do not matter to the bound. -/
theorem Bounded.append (hk : b.kinsoku = .free) (h : b.Bounded width cells)
    {before after : List Cell} (hbefore : columns before = 0) (hafter : columns after = 0) :
    b.Bounded width (before ++ cells ++ after) := by
  cases h with
  | fits h =>
    refine .fits ?_
    simpa [hbefore, hafter] using h
  | runIn hstrict => simp [hk] at hstrict
  | forced wide h hw =>
    refine .forced wide ?_ hw
    simp [filter_eq_nil_of_columns hbefore, filter_eq_nil_of_columns hafter, h]

/-- **Cells that keep to the bound are not cut** where punctuation does not matter. -/
theorem cut_of_bounded (hk : b.kinsoku = .free) (hw : 0 < width) (h : b.Bounded width cells) :
    b.cut width cells = ⟨cells, []⟩ := by
  rw [cut, if_neg (Int.not_le.2 hw)]
  cases h with
  | fits h => rw [Split.fit_of_columns_le h]; rfl
  | runIn hstrict => simp [hk] at hstrict
  | forced wide h hwide =>
    -- all before the wide glyph fits, and all after it is forced along with it
    obtain ⟨before, after, rfl, hbefore, -, hafter⟩ := List.filter_eq_cons_iff.1 h
    have hbefore : columns before = 0 := columns_eq_zero_iff.2 (by simpa using hbefore)
    have hafter : columns after = 0 := columns_eq_zero_iff.2 (by simpa using hafter)
    have hfit : Split.fit width (before ++ wide :: after) = ⟨before, wide :: after⟩ :=
      Split.fit_append_cons (by omega) (by omega) after
    simp only [hfit, List.isEmpty_cons, Bool.false_eq_true, if_false, hbefore, if_true]
    exact Split.force_of_columns_rest rfl hafter

end Breaking

/-! ## Lines that are not cut -/

namespace FoldOptions

variable {o : FoldOptions} {width : Int} (hw : 0 < width)
include hw

/-- A line that is not cut is its only fragment. -/
theorem fold_every_eq_singleton (hp : o.padding = false) {line : Text}
    (hcut : o.breaking.cut width (o.row line) = ⟨o.row line, []⟩) :
    o.fold (.every width) line = [o.prepare line] := by
  have hspell : Cell.spell (o.row line) = o.prepare line := Cell.spell_ofText _ _
  by_cases hrow : o.row line = []
  · rw [fold, o.slices_every_of_eq_nil hw hrow, ← hspell, hrow]
    rfl
  · have hslices : o.slices (.every width) line = [⟨o.row line, some width, false⟩] := by
      rw [o.slices_every hw hrow, Layout.everySlices_of_ne_nil width hw hrow, hcut,
        Layout.everySlices]
      rfl
    simp [fold, hslices, render, closing, pad, hp, hspell]

theorem bounded_of_mem_spans_every {line : Text} :
    ∀ s ∈ o.spans (.every width) line, o.breaking.Bounded width (s.cells (o.row line)) := by
  intro s hs
  by_cases hrow : o.row line = []
  · rw [hrow, Span.cells, List.take_nil, List.drop_nil]
    exact .fits (Int.le_of_lt hw)
  · have hwidth := (o.width_of_mem_spans_every hw hrow s hs).2
    rw [(o.placed_of_mem_spans (Layout.ends_every hw) line s hs).cells_eq width hwidth]
    exact o.breaking.bounded_cut hw _

end FoldOptions

/-! ## Fragments that are folded again -/

namespace FoldChoices

/-- **Folding folded text changes nothing.**  Without padding, tabs and rules for punctuation, a
line is folded for every positive width, and so is each of its fragments, which is then its own only
fragment. -/
theorem fold_of_mem_fold {c : FoldChoices} (hk : c.kinsoku ≠ some .strict) (hp : c.padding = false)
    (he : c.expandTabs = false) {width : Int} (hw : 0 < width) (line : Text) :
    ∃ fragments, c.fold (.every width) line = .ok fragments ∧
      ∀ fragment ∈ fragments, c.fold (.every width) fragment = .ok [fragment] := by
  have hfold : ∀ t, c.fold (.every width) t = .ok (c.options.fold (.every width) t) := fun t => by
    rw [fold, fault?_eq_none_of_ne_strict hp he hk]
  have hfree : c.options.breaking.kinsoku = .free := by
    rcases hc : c.kinsoku with _ | _ | _
    · simp [options, hc]
    · simp [options, hc]
    · exact absurd hc hk
  refine ⟨_, hfold line, ?_⟩
  intro fragment hmem
  rw [c.options.fold_eq_map_text (Layout.ends_every hw)] at hmem
  obtain ⟨s, hs, rfl⟩ := List.mem_map.1 hmem
  -- the fragment keeps to the bound of its piece: what is written around it has no columns
  have hbounded := (FoldOptions.bounded_of_mem_spans_every hw s hs).append hfree
    (Rendition.columns_cells (s.opening (c.options.row line)))
    (Rendition.columns_cells (s.closing (c.options.row line)))
  have hrow := FoldOptions.row_eq_cells (o := c.options) he
  rw [hrow line, ← Span.cells_text hp, ← hrow] at hbounded
  have hsingle := FoldOptions.fold_every_eq_singleton hw hp
    (Breaking.cut_of_bounded hfree hw hbounded)
  rw [hfold, hrow line, hsingle, FoldOptions.prepare, if_neg (by simp [options, he])]

/-- Colours that are opened again and reset, a glyph that is too wide with marks around it, and a
sequence that is cut in two. -/
theorem fold_of_mem_fold_wide_glyph :
    let o : FoldOptions :=
      { FoldOptions.default with ambiguity := .wide, breaking := ⟨.word, .free, 2, 2⟩ }
    let line := Text.ofString "\x1b[31ma中\u0301\x1b[4m\u200bb\x1b[3"
    let fragments := ["\x1b[31ma\x1b[m", "\x1b[31m中\u0301\x1b[4m\u200b\x1b[m",
      "\x1b[31m\x1b[4mb\x1b[\x1b[m", "\x1b[31m\x1b[4m3"].map Text.ofString
    o.choices.kinsoku ≠ some .strict ∧ o.choices.padding = false ∧
      o.choices.expandTabs = false ∧ (0 : Int) < 1 ∧
      o.choices.fold (.every 1) line = .ok fragments ∧
      ∀ fragment ∈ fragments, o.choices.fold (.every 1) fragment = .ok [fragment] := by
  intro o line fragments
  have hk : o.choices.kinsoku ≠ some .strict := by decide
  have hw : (0 : Int) < 1 := by decide
  obtain ⟨folded, hok, hagain⟩ := fold_of_mem_fold (c := o.choices) hk rfl rfl hw line
  have hfragments : o.choices.fold (.every 1) line = .ok fragments := by
    have hfault : o.choices.fault? (.every 1) line = none := by decide +kernel
    rw [fold, hfault]
    exact congrArg Except.ok (by decide +kernel)
  obtain rfl : folded = fragments := Except.ok.inj (hok.symm.trans hfragments)
  exact ⟨hk, rfl, rfl, hw, hfragments, hagain⟩

end FoldChoices
end ColumnFold
