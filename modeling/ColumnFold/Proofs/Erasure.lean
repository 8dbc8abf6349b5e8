import ColumnFold.Proofs.Fields
import ColumnFold.Proofs.Fragments
import ColumnFold.Proofs.Glyphs
import Mathlib.Data.List.Forall2

/-!
# Escape sequences do not move cuts

Where punctuation does not matter, a line is cut by its glyphs alone.  Nothing is proved here about
two lines side by side: escape sequences are erased from one line, and every step of a cut is shown
to do the same before and after (`Split.fit_glyphs`, `Split.force_glyphs`,
`Split.toWordStart_glyphs`), so a whole cut does (`Breaking.cut_glyphs`), and so do all cuts of a
line (`Layout.slices_glyphs`).  Two lines with the same glyphs have the same line of glyphs.

The reason is the same in every step.  A step goes through cells up to the first one that fails a
test, and an escape sequence passes the test: it has no columns, and it may stand in a word.  What
has to be watched are the ends.  A line of glyphs is used up where only escape sequences are left,
and the line itself is not; but a cut takes the escape sequences after the last glyph with it, so
this happens only in a line without glyphs.

* `Cell.glyphs` — the glyphs among cells.
* `Span.shown` — what a fragment shows.
* `FoldOptions.fold_glyphs_congr` — lines with the same glyphs are folded alike.
-/

set_option autoImplicit false

namespace ColumnFold

/-! ## Glyphs -/

namespace Cell

/-- The glyphs among cells. -/
def glyphs (cells : List Cell) : List Cell := cells.filter (!·.isEscape)

@[simp] theorem glyphs_nil : glyphs [] = [] := rfl

theorem glyphs_cons_of_escape {c : Cell} (h : c.isEscape = true) (cells : List Cell) :
    glyphs (c :: cells) = glyphs cells :=
  List.filter_cons_of_neg (by simp [h])

theorem glyphs_cons_of_glyph {c : Cell} (h : c.isEscape = false) (cells : List Cell) :
    glyphs (c :: cells) = c :: glyphs cells :=
  List.filter_cons_of_pos (by simp [h])

@[simp] theorem glyphs_append (xs ys : List Cell) : glyphs (xs ++ ys) = glyphs xs ++ glyphs ys :=
  List.filter_append ..

@[simp] theorem glyphs_reverse (cells : List Cell) :
    glyphs cells.reverse = (glyphs cells).reverse :=
  List.filter_reverse ..

theorem glyphs_eq_nil_iff {cells : List Cell} :
    glyphs cells = [] ↔ ∀ c ∈ cells, c.isEscape = true := by
  simp [glyphs]

@[simp] theorem columns_glyphs (cells : List Cell) : columns (glyphs cells) = columns cells := by
  induction cells with
  | nil => rfl
  | cons c cells ih =>
    cases he : c.isEscape with
    | true => rw [glyphs_cons_of_escape he, ih, columns_cons, width_of_isEscape he, Nat.zero_add]
    | false => rw [glyphs_cons_of_glyph he, columns_cons, ih, columns_cons]

@[simp] theorem find?_glyphs (cells : List Cell) :
    (glyphs cells).find? (!·.isEscape) = cells.find? (!·.isEscape) := by
  simp [glyphs, List.find?_filter]

section
variable {p : Cell → Bool}

/-- Escape sequences that pass a test do not end the run of cells that pass it. -/
theorem takeWhile_glyphs (hp : ∀ c : Cell, c.isEscape = true → p c = true) (cells : List Cell) :
    (glyphs cells).takeWhile p = glyphs (cells.takeWhile p) := by
  induction cells with
  | nil => rfl
  | cons c cells ih =>
    cases he : c.isEscape with
    | true =>
      rw [glyphs_cons_of_escape he, List.takeWhile_cons_of_pos (hp c he), glyphs_cons_of_escape he,
        ih]
    | false =>
      rw [glyphs_cons_of_glyph he, List.takeWhile_cons, List.takeWhile_cons]
      split
      · rw [glyphs_cons_of_glyph he, ih]
      · rfl

theorem dropWhile_glyphs (hp : ∀ c : Cell, c.isEscape = true → p c = true) (cells : List Cell) :
    (glyphs cells).dropWhile p = glyphs (cells.dropWhile p) := by
  induction cells with
  | nil => rfl
  | cons c cells ih =>
    cases he : c.isEscape with
    | true => rw [glyphs_cons_of_escape he, List.dropWhile_cons_of_pos (hp c he), ih]
    | false =>
      rw [glyphs_cons_of_glyph he, List.dropWhile_cons, List.dropWhile_cons]
      split
      · exact ih
      · rw [glyphs_cons_of_glyph he]

end

end Cell

open Cell

/-! ## The steps of a cut -/

namespace Split

/-- A cut of the glyphs alone. -/
def glyphs (s : Split) : Split := ⟨Cell.glyphs s.taken, Cell.glyphs s.rest⟩

theorem fit_glyphs {budget : Int} (hb : 0 ≤ budget) (cells : List Cell) :
    fit budget (Cell.glyphs cells) = (fit budget cells).glyphs := by
  induction cells generalizing budget with
  | nil => rfl
  | cons c cells ih =>
    cases he : c.isEscape with
    | true =>
      have hzero : ((c.width : Nat) : Int) = 0 := by rw [width_of_isEscape he]; rfl
      rw [glyphs_cons_of_escape he, ih hb, fit, hzero, if_pos hb, Int.sub_zero, glyphs, glyphs,
        glyphs_cons_of_escape he]
    | false =>
      rw [glyphs_cons_of_glyph he, fit, fit]
      split
      · rw [ih (by omega)]
        simp only [glyphs, glyphs_cons_of_glyph he]
      · simp only [glyphs, glyphs_cons_of_glyph he, Cell.glyphs_nil]

/-- After the greedy cut the line goes on with a glyph, if it goes on. -/
theorem fit_rest_eq_nil_iff {budget : Int} (hb : 0 ≤ budget) (cells : List Cell) :
    (fit budget (Cell.glyphs cells)).rest = [] ↔ (fit budget cells).rest = [] := by
  rw [fit_glyphs hb, glyphs]
  cases hrest : (fit budget cells).rest with
  | nil => simp
  | cons c rest =>
    have hc := isEscape_eq_false_of_width (width_pos_of_fit_rest hb hrest)
    simp [glyphs_cons_of_glyph hc]

theorem force_glyphs {s : Split} {c : Cell} {rest : List Cell} (hs : s.rest = c :: rest)
    (hc : c.isEscape = false) : s.glyphs.force = s.force.glyphs := by
  have hzero : ∀ c : Cell, c.isEscape = true → (c.width == 0) = true := fun c he => by
    rw [width_of_isEscape he]
    rfl
  simp only [force, glyphs, hs, glyphs_cons_of_glyph hc, takeWhile_glyphs hzero,
    dropWhile_glyphs hzero, Cell.glyphs_append]

@[simp] theorem splitsWord_glyphs (s : Split) : s.glyphs.splitsWord = s.splitsWord := by
  simp only [splitsWord, glyphs, ← glyphs_reverse, find?_glyphs]

/-- Escape sequences in a run of word glyphs stay with the run, or before it. -/
theorem toWordStart_glyphs (s : Split) : s.glyphs.toWordStart = s.toWordStart.glyphs := by
  have hrun : ∀ c : Cell, c.isEscape = true → inWordRun c = true := fun c he => by
    rw [inWordRun, he, Bool.true_or]
  rw [toWordStart, toWordStart, splitsWord_glyphs]
  split
  · simp only [glyphs, ← glyphs_reverse, takeWhile_glyphs hrun, dropWhile_glyphs hrun]
    cases hback : s.taken.reverse.dropWhile inWordRun with
    | nil => rfl
    | cons brk back =>
      -- the run is stopped by a glyph
      have hbrk : brk.isEscape = false := by
        have h := List.head?_dropWhile_not inWordRun s.taken.reverse
        rw [hback] at h
        exact isEscape_of_not_inWordRun h
      simp [glyphs_cons_of_glyph hbrk, ← takeWhile_glyphs (p := isEscape) fun c he => he,
        ← dropWhile_glyphs (p := isEscape) fun c he => he]
  · rfl

end Split

/-! ## A whole cut -/

namespace Breaking

variable {b : Breaking}

theorem atWord_glyphs (s : Split) : b.atWord s.glyphs = (b.atWord s).glyphs := by
  rw [atWord.eq_def, atWord.eq_def]
  split
  · rfl
  · exact s.toWordStart_glyphs

/-- **A cut of the glyphs of a line is a cut of the line**, where punctuation does not matter. -/
theorem cut_glyphs (hk : b.kinsoku = .free) (width : Int) (cells : List Cell) :
    b.cut width (glyphs cells) = (b.cut width cells).glyphs := by
  rw [cut, cut]
  split
  · rfl
  · have hw : 0 ≤ width := by omega
    have hfree : ∀ s, b.atPunctuation s = s := fun s => by rw [atPunctuation, hk]
    have hempty : (Split.fit width (glyphs cells)).rest.isEmpty =
        (Split.fit width cells).rest.isEmpty := by
      rw [Bool.eq_iff_iff, List.isEmpty_iff, List.isEmpty_iff, Split.fit_rest_eq_nil_iff hw]
    have hcolumns : columns (Split.fit width (glyphs cells)).taken =
        columns (Split.fit width cells).taken := by
      rw [Split.fit_glyphs hw, Split.glyphs, columns_glyphs]
    dsimp only
    rw [hempty, hcolumns, Split.fit_glyphs hw, hfree, hfree, atWord_glyphs]
    split
    · rfl
    · rename_i hrest
      split
      · obtain ⟨c, rest, hc⟩ := List.exists_cons_of_ne_nil (mt List.isEmpty_iff.2 hrest)
        exact Split.force_glyphs hc (isEscape_eq_false_of_width (Split.width_pos_of_fit_rest hw hc))
      · rfl

theorem glyphs_cut_rest_eq_nil_iff (hk : b.kinsoku = .free) (width : Int) {cells : List Cell}
    (hc : glyphs cells ≠ []) :
    glyphs (b.cut width cells).rest = [] ↔ (b.cut width cells).rest = [] := by
  refine ⟨fun h => ?_, fun h => by rw [h, glyphs_nil]⟩
  by_cases hw : 0 < width
  · by_contra hne
    have hstrands := (b.strands_iff hw cells).1 ⟨hne, glyphs_eq_nil_iff.1 h⟩
    rw [hstrands.strict] at hk
    cases hk
  · rw [cut, if_pos (Int.not_lt.1 hw)] at h
    exact absurd h hc

end Breaking

/-! ## All cuts of a line -/

/-- A slice of the glyphs alone. -/
def Slice.glyphs (s : Slice) : Slice := { s with cells := Cell.glyphs s.cells }

namespace Layout

variable {b : Breaking}

/-- The slice of a cut of the glyphs. -/
theorem slice_cut_glyphs (hk : b.kinsoku = .free) (width : Int) {cells : List Cell}
    (hc : glyphs cells ≠ []) :
    (b.cut width (glyphs cells)).slice width = ((b.cut width cells).slice width).glyphs := by
  have hmore : (glyphs (b.cut width cells).rest).isEmpty = (b.cut width cells).rest.isEmpty := by
    rw [Bool.eq_iff_iff, List.isEmpty_iff, List.isEmpty_iff,
      Breaking.glyphs_cut_rest_eq_nil_iff hk width hc]
  simp only [Split.slice, Slice.glyphs, Breaking.cut_glyphs hk, Split.glyphs, hmore]

/-- The slices of a repeated width, by induction on them: each cut leaves a line with glyphs, or
nothing. -/
theorem everySlices_glyphs (hk : b.kinsoku = .free) (width : Int) (hw : 0 < width)
    {cells : List Cell} (hc : glyphs cells = [] → cells = []) :
    everySlices b width hw (glyphs cells) =
      (everySlices b width hw cells).map Slice.glyphs := by
  fun_induction everySlices b width hw cells with
  | case1 => rw [glyphs_nil, everySlices]; rfl
  | case2 c cells ih =>
    have hne : glyphs (c :: cells) ≠ [] := fun h => List.cons_ne_nil c cells (hc h)
    rw [everySlices_of_ne_nil width hw hne, slice_cut_glyphs hk width hne, Breaking.cut_glyphs hk,
      List.map_cons]
    exact congrArg _ (ih (Breaking.glyphs_cut_rest_eq_nil_iff hk width hne).1)

theorem fieldSlices_glyphs (hk : b.kinsoku = .free) (takeRest : Bool) (widths : List Int)
    {cells : List Cell} (hc : glyphs cells = [] → cells = []) :
    fieldSlices b takeRest widths (glyphs cells) =
      (fieldSlices b takeRest widths cells).map Slice.glyphs := by
  fun_induction fieldSlices b takeRest widths cells with
  | case1 => rfl
  | case2 => rfl
  | case3 width cells hne ht =>
    rw [fieldSlices_singleton takeRest width (mt hc hne), if_pos ht]
    rfl
  | case4 cells hne ht =>
    rw [fieldSlices_singleton takeRest 0 (mt hc hne), if_neg ht, if_pos rfl, List.map_nil]
  | case5 width cells hne ht hw =>
    rw [fieldSlices_singleton takeRest width (mt hc hne), if_neg ht, if_neg hw,
      slice_cut_glyphs hk width (mt hc hne), List.map_singleton]
  | case6 width widths cells hne hws ih =>
    have hglyphs : glyphs cells ≠ [] := mt hc hne
    rw [fieldSlices_cons b takeRest width hws hglyphs, slice_cut_glyphs hk width hglyphs,
      Breaking.cut_glyphs hk, List.map_cons]
    exact congrArg _ (ih (Breaking.glyphs_cut_rest_eq_nil_iff hk width hglyphs).1)

/-- **The slices of the glyphs of a line are those of the line**, where punctuation does not
matter. -/
theorem slices_glyphs (hk : b.kinsoku = .free) (layout : Layout) {cells : List Cell}
    (hc : glyphs cells ≠ []) :
    layout.slices b (glyphs cells) = (layout.slices b cells).map Slice.glyphs := by
  have hne : cells ≠ [] := fun h => hc (by rw [h, glyphs_nil])
  cases layout with
  | fields widths takeRest => exact fieldSlices_glyphs hk takeRest widths fun h => absurd h hc
  | every width =>
    rw [slices, slices]
    split
    · rename_i hw
      rw [if_neg (by simpa using hc), if_neg (by simpa using hne)]
      exact everySlices_glyphs hk width hw fun h => absurd h hc
    · rfl

end Layout

/-! ## What fragments show -/

theorem Division.map_width_cells {b : Breaking} {cells left line : List Cell} {slices : List Slice}
    (h : Division b cells slices left) {start : Nat} (hd : line.drop start = cells) :
    (Span.ofSlices start slices).map (fun s => (s.width, s.cells line)) =
      slices.map fun s => (s.width, s.cells) := by
  induction h generalizing start with
  | stop cells => rfl
  | blank =>
    have hd : line.drop start = [] ++ [] := hd
    have hcells := (Span.cells_append hd none).1
    simpa [Span.ofSlices] using hcells
  | @rest cells hc =>
    rw [← List.append_nil cells] at hd
    have hcells := (Span.cells_append hd none).1
    simpa [Span.ofSlices] using hcells
  | @cut cells slices left width hc h ih =>
    rw [← b.cut_append width cells] at hd
    obtain ⟨hcells, hrest⟩ := Span.cells_append hd (some width)
    have hrest := ih hrest
    simp_all [Span.ofSlices, Split.slice]

namespace Span

/-- Whether the fragments of two spans show the same: the same glyphs and the same padding. -/
def ShownAlike (o : FoldOptions) (line line' : List Cell) (s s' : Span) : Prop :=
  Cell.glyphs (s.cells line) = Cell.glyphs (s'.cells line') ∧ s.slack o line = s'.slack o line'

variable {o : FoldOptions} {line line' : List Cell}

theorem shownAlike_of_glyphs {s s' : Span} (hwidth : s.width = s'.width)
    (hglyphs : Cell.glyphs (s.cells line) = Cell.glyphs (s'.cells line')) :
    ShownAlike o line line' s s' := by
  refine ⟨hglyphs, ?_⟩
  rw [slack, slack, hwidth, ← columns_glyphs (s.cells line), hglyphs, columns_glyphs]

/-- Where fragments show the same, the same padding cannot be written. -/
theorem findSome?_fault?_eq {spans spans' : List Span}
    (h : List.Forall₂ (ShownAlike o line line') spans spans') :
    spans.findSome? (fault? o line) = spans'.findSome? (fault? o line') := by
  induction h with
  | nil => rfl
  | @cons s s' spans spans' hs h ih =>
    have hfault : fault? o line s = fault? o line' s' := by rw [fault?, fault?, hs.2]
    rw [List.findSome?_cons, List.findSome?_cons, hfault, ih]

end Span

namespace FoldOptions

variable (o : FoldOptions)

theorem forall₂_shownAlike (hk : o.breaking.kinsoku = .free) {layout : Layout} (h : layout.Ends)
    {line line' : Text} (hglyphs : Cell.glyphs (o.row line) = Cell.glyphs (o.row line'))
    (hne : Cell.glyphs (o.row line) ≠ []) :
    List.Forall₂ (Span.ShownAlike o (o.row line) (o.row line')) (o.spans layout line)
      (o.spans layout line') := by
  -- the spans of a line have the widths and glyphs of the slices of its glyphs
  have hmap : ∀ line : Text, Cell.glyphs (o.row line) ≠ [] →
      (o.spans layout line).map (fun s => (s.width, Cell.glyphs (s.cells (o.row line)))) =
        (layout.slices o.breaking (Cell.glyphs (o.row line))).map fun s => (s.width, s.cells) := by
    intro line hne
    obtain ⟨left, hd⟩ := layout.division_slices o.breaking h (o.row line)
    have hdrop : (o.row line).drop 0 = o.row line := rfl
    have hspans := congrArg (List.map (Prod.map id Cell.glyphs)) (hd.map_width_cells hdrop)
    rw [List.map_map, List.map_map] at hspans
    rw [Layout.slices_glyphs hk layout hne, List.map_map]
    exact hspans
  have heq := (hmap line hne).trans (hglyphs ▸ (hmap line' (hglyphs ▸ hne)).symm)
  rw [← List.forall₂_eq_eq_eq, List.forall₂_map_left_iff, List.forall₂_map_right_iff] at heq
  refine heq.imp fun s s' hs => ?_
  obtain ⟨hwidth, hcells⟩ := Prod.mk.inj hs
  exact Span.shownAlike_of_glyphs hwidth hcells

/-- **Escape sequences do not influence where a line is cut**, if punctuation does not matter.  Two
lines with the same glyphs are folded into as many fragments, and each fragment shows the same
glyphs and the same padding as its counterpart.  The first padding that cannot be written is the
same for both lines; if there is one, folding breaks off for both with its fault, and otherwise it
gives the fragments of both. -/
theorem fold_glyphs_congr (hk : o.breaking.kinsoku = .free) (he : o.expandTabs = false)
    {layout : Layout} (h : layout.Ends) {line line' : Text}
    (hglyphs : Cell.glyphs (o.cells line) = Cell.glyphs (o.cells line'))
    (hne : Cell.glyphs (o.cells line) ≠ []) :
    let spans := o.spans layout line
    let spans' := o.spans layout line'
    let fault? := spans.findSome? (Span.fault? o (o.cells line))
    List.Forall₂ (Span.ShownAlike o (o.cells line) (o.cells line')) spans spans' ∧
      spans'.findSome? (Span.fault? o (o.cells line')) = fault? ∧
      (∀ fault, fault? = some fault → o.padding = true ∧
        o.choices.fold layout line = .error fault ∧ o.choices.fold layout line' = .error fault) ∧
      (fault? = none →
        o.choices.fold layout line = .ok (spans.map (Span.text o (o.cells line))) ∧
        o.choices.fold layout line' = .ok (spans'.map (Span.text o (o.cells line')))) := by
  intro spans spans' fault?
  have hrow := row_eq_cells he line
  have hrow' := row_eq_cells he line'
  have halike : List.Forall₂ (Span.ShownAlike o (o.row line) (o.row line')) (o.spans layout line)
      (o.spans layout line') :=
    o.forall₂_shownAlike hk h (by rwa [hrow, hrow']) (by rwa [hrow])
  rw [hrow, hrow'] at halike
  have hfault := (Span.findSome?_fault?_eq halike).symm
  obtain ⟨herror, hok⟩ := o.choices_fold_by_padding he h line
  obtain ⟨herror', hok'⟩ := o.choices_fold_by_padding he h line'
  refine ⟨halike, hfault, fun fault hsome => ?_, fun hnone => ?_⟩
  · obtain ⟨hpadding, hfold⟩ := herror fault hsome
    exact ⟨hpadding, hfold, (herror' fault (hfault.trans hsome)).2⟩
  · exact ⟨hok hnone, hok' (hfault.trans hnone)⟩

/-- Sequences at both ends of a line, inside a word and at a cut, one of them unfinished. -/
theorem fold_glyphs_congr_coloured_words :
    let o : FoldOptions := { default with breaking := ⟨.word, .free, 2, 2⟩, padding := true }
    let plain := Text.ofString "ab cd中e"
    let coloured := Text.ofString "\x1b[1ma\x1b[31mb c\x1b(Bd\x1b[m中\x1bMe\x1b\x1b[7m"
    let layout := Layout.every 4
    o.breaking.kinsoku = .free ∧ o.expandTabs = false ∧ layout.Ends ∧
      Cell.glyphs (o.cells plain) = Cell.glyphs (o.cells coloured) ∧
      Cell.glyphs (o.cells plain) ≠ [] ∧
      List.Forall₂ (Span.ShownAlike o (o.cells plain) (o.cells coloured)) (o.spans layout plain)
        (o.spans layout coloured) ∧
      o.choices.fold layout plain = .ok [.ofString "ab  ", .ofString "cd中", .ofString "e   "] ∧
      ∃ fragments, o.choices.fold layout coloured = .ok fragments ∧ fragments.length = 3 := by
  intro o plain coloured layout
  have h : layout.Ends := Layout.ends_every (by decide)
  have hglyphs : Cell.glyphs (o.cells plain) = Cell.glyphs (o.cells coloured) := by decide +kernel
  have hne : Cell.glyphs (o.cells plain) ≠ [] := by decide +kernel
  have hnone : (o.spans layout plain).findSome? (Span.fault? o (o.cells plain)) = none := by
    decide +kernel
  obtain ⟨halike, -, -, hok⟩ := fold_glyphs_congr o rfl rfl h hglyphs hne
  obtain ⟨hplain, hcoloured⟩ := hok hnone
  have hspans : (o.spans layout plain).map (Span.text o (o.cells plain)) =
      [.ofString "ab  ", .ofString "cd中", .ofString "e   "] := by decide +kernel
  have hlength := congrArg List.length hspans
  rw [List.length_map, halike.length_eq] at hlength
  rw [hspans] at hplain
  exact ⟨rfl, rfl, h, hglyphs, hne, halike, hplain, _, hcoloured,
    (List.length_map ..).trans hlength⟩

/-- **Two lines that are not folded at all.**  They have the same glyphs, but no fragments, as
nobody can count the columns that are to be padded, even with nothing. -/
theorem fold_glyphs_congr_not_ok :
    let o : FoldOptions := { default with padding := true, filler := "" }
    let layout := Layout.every 99999999999999999999
    let plain := Text.ofString "abc"
    let coloured := Text.ofString "\x1b[31mabc"
    o.breaking.kinsoku = .free ∧ o.expandTabs = false ∧ layout.Ends ∧
      Cell.glyphs (o.cells plain) = Cell.glyphs (o.cells coloured) ∧
      Cell.glyphs (o.cells plain) ≠ [] ∧
      ¬ ∃ fragments fragments', o.choices.fold layout plain = .ok fragments ∧
        o.choices.fold layout coloured = .ok fragments' ∧ fragments.length = fragments'.length := by
  intro o layout plain coloured
  refine ⟨rfl, rfl, Layout.ends_every (by decide), by decide +kernel, by decide +kernel, ?_⟩
  rintro ⟨fragments, -, hok, -, -⟩
  have hfault : o.choices.fault? layout plain = some (.repetition .uncountable) := by
    decide +kernel
  rw [o.choices_fold_of_some hfault] at hok
  cases hok

end FoldOptions
end ColumnFold
