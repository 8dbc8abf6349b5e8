import ColumnFold.Proofs.Erasure
import ColumnFold.Proofs.Widths

/-!
# No division has fewer fragments

Where a line may be cut anywhere, a repeated width is applied greedily: each fragment takes as many
cells as it can.  That is also the best that can be done.  Call a run of cells admissible if it
fits, or if it holds only one cell with columns, which has to go somewhere.  Every cut is
admissible, and with one cell more it would not be (`Breaking.not_admissible_cut_concat`): the next
cell has columns, and so has one before it.

The rest is an exchange argument.  Another division into admissible runs may begin with shorter
runs, but never with longer ones; so what it has not yet covered includes what the cuts have not.
Its next run begins there or before, and what the run takes of the cells that are left to the cuts
is admissible again, because cells can be left out of an admissible run.  So the next cut stays
ahead (`Layout.length_take_le`).

* `Cell.Admissible` — what one fragment may hold.
* `Layout.length_take_le` — no division into admissible runs gets ahead of the cuts.
* `FoldOptions.fold_fewest` — fragments of a repeated width are the fewest possible.
-/

set_option autoImplicit false

namespace ColumnFold

open Cell

/-! ## Runs that one fragment may hold -/

/-- Whether cells may stand in one fragment of the given width: they fit, or exactly one of them has
columns. -/
def Cell.Admissible (width : Int) (cells : List Cell) : Prop :=
  (columns cells : Int) ≤ width ∨ (cells.filter (0 < ·.width)).length = 1

instance (width : Int) (cells : List Cell) : Decidable (Cell.Admissible width cells) :=
  inferInstanceAs (Decidable (_ ∨ _))

theorem Cell.columns_le_of_sublist {cells cells' : List Cell} (h : cells.Sublist cells') :
    columns cells ≤ columns cells' := by
  induction h with
  | slnil => exact Nat.le_refl _
  | cons c _ ih => exact Nat.le_trans ih (Nat.le_add_left _ _)
  | cons_cons c _ ih => exact Nat.add_le_add_left ih _

namespace Cell.Admissible

variable {width : Int} {cells : List Cell}

theorem sublist (hw : 0 ≤ width) {part : List Cell} (h : Admissible width cells)
    (hpart : part.Sublist cells) : Admissible width part := by
  rcases h with h | h
  · have hle := columns_le_of_sublist hpart
    exact .inl (by omega)
  · have hle := (hpart.filter (0 < ·.width)).length_le
    rcases Nat.eq_zero_or_pos (part.filter (0 < ·.width)).length with hzero | hpos
    · -- the one cell with columns was left out
      have hcolumns : columns part = 0 := by
        rw [columns_eq_zero_iff]
        simpa [List.length_eq_zero_iff] using hzero
      exact .inl (by omega)
    · exact .inr (by omega)

/-- What a fragment may hold, a wider one may hold as well. -/
theorem mono {width' : Int} (hle : width ≤ width') (h : Admissible width cells) :
    Admissible width' cells :=
  h.imp_left fun hfits => Int.le_trans hfits hle

/-- With one more cell with columns, cells of which one has columns are admissible only if they
fit. -/
theorem concat_iff {next : Cell} (hcell : ∃ c ∈ cells, 0 < c.width) (hnext : 0 < next.width) :
    Admissible width (cells ++ [next]) ↔ (columns cells + next.width : Int) ≤ width := by
  have hfilter : 0 < (cells.filter (0 < ·.width)).length := by
    rw [List.length_filter_pos_iff]
    simpa using hcell
  rw [Admissible, columns_append, List.filter_append,
    List.filter_cons_of_pos (by simpa using hnext)]
  simp only [columns_cons, columns_nil, List.filter_nil, List.length_append, List.length_singleton]
  omega

end Cell.Admissible

/-! ## One cut -/

/-- After the forced glyph all cells without columns are taken. -/
theorem Split.width_pos_of_force_rest {s : Split} {next : Cell} {rest : List Cell}
    (hs : s.rest ≠ []) (h : s.force.rest = next :: rest) : 0 < next.width := by
  obtain ⟨wide, after, hwide⟩ := List.exists_cons_of_ne_nil hs
  have hnext := List.head?_dropWhile_not (·.width == 0) after
  rw [force, hwide] at h
  dsimp only at h
  rw [h] at hnext
  simpa [Nat.pos_iff_ne_zero] using hnext

namespace Breaking

variable {b : Breaking} {width : Int} (hw : 0 < width)
include hw

theorem admissible_cut (hk : b.kinsoku = .free) (cells : List Cell) :
    Admissible width (b.cut width cells).taken := by
  rcases b.bounded_cut hw cells with h | hstrict | ⟨wide, h, -⟩
  · exact .inl h
  · simp [hk] at hstrict
  · exact .inr (congrArg List.length h)

variable (hb : b.boundary = .anywhere) (hk : b.kinsoku = .free)
include hb hk

/-- **A cut takes as much as it can**: with one cell more it would not be admissible. -/
theorem not_admissible_cut_concat {cells rest : List Cell} {next : Cell}
    (h : (b.cut width cells).rest = next :: rest) :
    ¬Admissible width ((b.cut width cells).taken ++ [next]) := by
  rcases b.cut_cases hw cells with ⟨hrest, hcut⟩ | ⟨hrest, hzero, hcut⟩ | ⟨hover, hcut⟩
  · rw [hcut, hrest] at h
    cases h
  · -- the forced glyph is too wide already
    obtain ⟨wide, after, hwide⟩ := List.exists_cons_of_ne_nil hrest
    have hlt := Split.lt_of_fit_rest hwide
    rw [hzero] at hlt
    have hone := Split.filter_force hwide hzero (by omega)
    have hmem : wide ∈ (Split.fit width cells).force.taken.filter (0 < ·.width) := by
      rw [hone]
      exact List.mem_singleton_self wide
    have hwidth := columns_le_of_sublist (List.singleton_sublist.2 (List.mem_filter.1 hmem).1)
    rw [columns_cons, columns_nil] at hwidth
    rw [hcut] at h ⊢
    rw [Admissible.concat_iff ⟨wide, (List.mem_filter.1 hmem).1, by omega⟩
      (Split.width_pos_of_force_rest hrest h)]
    omega
  · have hfit : b.cut width cells = Split.fit width cells := by
      rw [hcut, atPunctuation, hk, plain, atWord, hb]
    have hcell : ∃ c ∈ (Split.fit width cells).taken, 0 < c.width := by
      by_contra hnone
      exact hover.2 (columns_eq_zero_iff.2 fun c hc =>
        Nat.eq_zero_of_not_pos fun hpos => hnone ⟨c, hc, hpos⟩)
    rw [hfit] at h ⊢
    rw [Admissible.concat_iff hcell (Split.width_pos_of_fit_rest (Int.le_of_lt hw) h)]
    exact Int.not_le.2 (Split.lt_of_fit_rest h)

/-- No admissible run that begins where a cut begins is longer than the cut. -/
theorem length_le_cut {cells run : List Cell} (hrun : run <+: cells) (h : Admissible width run) :
    run.length ≤ (b.cut width cells).taken.length := by
  refine Nat.not_lt.1 fun hlt => ?_
  have hall := b.cut_append width cells
  rcases hrest : (b.cut width cells).rest with _ | ⟨next, rest⟩
  · rw [hrest, List.append_nil] at hall
    rw [hall] at hlt
    exact absurd hrun.length_le (Nat.not_le.2 hlt)
  · have hconcat : (b.cut width cells).taken ++ [next] <+: cells := by
      rw [hrest] at hall
      exact ⟨rest, by rw [List.append_assoc, List.singleton_append, hall]⟩
    have hpart : (b.cut width cells).taken ++ [next] <+: run :=
      List.prefix_of_prefix_length_le hconcat hrun (by rwa [List.length_append])
    exact not_admissible_cut_concat hw hb hk hrest (h.sublist (Int.le_of_lt hw) hpart.sublist)

end Breaking

/-! ## All cuts of a line -/

namespace Layout

variable {b : Breaking} {width : Int} (hw : 0 < width) (hb : b.boundary = .anywhere)
  (hk : b.kinsoku = .free)
include hb hk

/-- **The cuts stay ahead.**  A division into admissible runs that has `lead` still to cover, and
then the cells that the cuts have still to take, covers no more in `j` runs than `lead` and what the
cuts take in `j` slices. -/
theorem length_take_le {runs : List (List Cell)} {lead cells : List Cell}
    (hflat : runs.flatten = lead ++ cells) (hruns : ∀ run ∈ runs, Admissible width run) (j : Nat) :
    (runs.take j).flatten.length ≤
      lead.length + (((everySlices b width hw cells).take j).flatMap Slice.cells).length := by
  induction j generalizing runs lead cells with
  | zero => simp
  | succ j ih =>
    rcases runs with _ | ⟨run, runs⟩
    · simp
    have hothers : ∀ r ∈ runs, Admissible width r := fun r hr =>
      hruns r (List.mem_cons_of_mem run hr)
    by_cases hc : cells = []
    · -- the cuts have taken everything
      subst hc
      have hsplit := congrArg (List.length ∘ List.flatten)
        (List.take_append_drop (j + 1) (run :: runs))
      simp only [Function.comp_apply, List.flatten_append, hflat, List.append_nil,
        List.length_append] at hsplit
      omega
    have hall := b.cut_append width cells
    rw [everySlices_of_ne_nil width hw hc, List.take_succ_cons, List.take_succ_cons,
      List.flatMap_cons, List.flatten_cons, List.length_append, List.length_append]
    dsimp only [Split.slice]
    rw [List.flatten_cons, List.append_eq_append_iff] at hflat
    rcases hflat with ⟨lead', rfl, hflat⟩ | ⟨part, rfl, hcells⟩
    · -- the run ends before the cut begins
      rw [← hall, ← List.append_assoc] at hflat
      have hle := ih hflat hothers
      rw [List.length_append] at hle ⊢
      omega
    · -- the run ends within what the cut takes
      have hpart : Admissible width part :=
        (hruns _ List.mem_cons_self).sublist (Int.le_of_lt hw) (List.sublist_append_right _ _)
      have hlength := Breaking.length_le_cut hw hb hk ⟨_, hcells.symm⟩ hpart
      obtain ⟨lead', htaken⟩ := List.prefix_of_prefix_length_le
        ⟨_, hcells.symm⟩ (⟨_, hall⟩ : (b.cut width cells).taken <+: cells) hlength
      have hrest : part ++ runs.flatten = part ++ (lead' ++ (b.cut width cells).rest) := by
        rw [← hcells, ← List.append_assoc, htaken, hall]
      have hle := ih (List.append_cancel_left hrest) hothers
      rw [← htaken, List.length_append, List.length_append]
      omega

end Layout

/-- Pieces that are not empty are no more than it takes of them to cover them all. -/
theorem length_le_of_length_flatten_le {α : Type} {pieces : List (List α)}
    (hne : ∀ piece ∈ pieces, piece ≠ []) {j : Nat}
    (h : pieces.flatten.length ≤ (pieces.take j).flatten.length) : pieces.length ≤ j := by
  refine Nat.not_lt.1 fun hlt => ?_
  have hpos := List.length_pos_iff.2 (hne _ (List.getElem_mem hlt))
  have hflat := congrArg (List.length ∘ List.flatten) (List.take_append_drop j pieces)
  rw [List.drop_eq_getElem_cons hlt] at hflat
  simp only [Function.comp_apply, List.flatten_append, List.flatten_cons,
    List.length_append] at hflat
  omega

/-! ## Fragments -/

namespace FoldOptions

variable {o : FoldOptions} {width : Int} {line : Text}

theorem flatMap_take_spans {layout : Layout} (h : layout.Ends) (j : Nat) :
    ((o.spans layout line).take j).flatMap (Span.cells (o.row line)) =
      ((o.slices layout line).take j).flatMap Slice.cells := by
  obtain ⟨left, hd⟩ := layout.division_slices o.breaking h (o.row line)
  have hdrop : (o.row line).drop 0 = o.row line := rfl
  have hcells := congrArg (List.map Prod.snd) (hd.map_width_cells hdrop)
  rw [List.map_map, List.map_map] at hcells
  have hmap : (o.spans layout line).map (Span.cells (o.row line)) =
      (o.slices layout line).map Slice.cells := hcells
  rw [List.flatMap_def, List.flatMap_def, List.map_take, List.map_take, hmap]

section
variable (hw : 0 < width) (hb : o.breaking.boundary = .anywhere)
  (hk : o.breaking.kinsoku = .free) (hne : o.row line ≠ [])
include hw hb hk hne

/-- The spans of a repeated width hold all the cells, and no division into admissible runs gets
ahead of them. -/
theorem length_take_le_spans {runs : List (List Cell)} (hflat : runs.flatten = o.row line)
    (hruns : ∀ run ∈ runs, Admissible width run) (j : Nat) :
    (runs.take j).flatten.length ≤
      (((o.spans (.every width) line).take j).flatMap (Span.cells (o.row line))).length := by
  have hle := Layout.length_take_le hw hb hk (hflat.trans (List.nil_append _).symm) hruns j
  rwa [List.length_nil, Nat.zero_add, ← o.slices_every hw hne,
    ← flatMap_take_spans (Layout.ends_every hw)] at hle

/-- No division into admissible runs has fewer runs than there are spans. -/
theorem length_spans_le_runs {runs : List (List Cell)} (hflat : runs.flatten = o.row line)
    (hruns : ∀ run ∈ runs, Admissible width run) :
    (o.spans (.every width) line).length ≤ runs.length := by
  have hpieces : ∀ piece ∈ (o.spans (.every width) line).map (Span.cells (o.row line)),
      piece ≠ [] := by
    intro piece hpiece
    obtain ⟨s, hs, rfl⟩ := List.mem_map.1 hpiece
    have hlt := (o.width_of_mem_spans_every hw hne s hs).1
    have hstop := (o.placed_of_mem_spans (Layout.ends_every hw) line s hs).stop_le
    rw [Span.cells, Ne, List.drop_eq_nil_iff, List.length_take]
    omega
  have hall := (o.consecutive_spans_every hw line).flatMap_cells (Nat.le_refl _)
  have hlast := length_take_le_spans hw hb hk hne hflat hruns runs.length
  rw [List.take_length, List.drop_zero, List.flatMap_def] at hall
  rw [List.take_length, hflat, List.flatMap_def, List.map_take] at hlast
  have hle := length_le_of_length_flatten_le hpieces (by rwa [hall])
  rwa [List.length_map] at hle

end

/-- **Plain folding is greedy, and that is the best.**  A repeated width divides a line with cells
into spans that are admissible.  In any other division into admissible runs the first `j` runs cover
no more cells than the first `j` spans; so there are no fewer runs than spans, and a wider width
leads to no more spans.  Folding breaks off with the fault of the first padding that cannot be
written, if there is one, and otherwise gives the fragments of the spans. -/
theorem fold_fewest (hb : o.breaking.boundary = .anywhere) (hk : o.breaking.kinsoku = .free)
    (he : o.expandTabs = false) (hw : 0 < width) (hne : o.cells line ≠ []) :
    let row := o.cells line
    let spans := o.spans (.every width) line
    spans.flatMap (Span.cells row) = row ∧
      (∀ s ∈ spans, Admissible width (s.cells row)) ∧
      (∀ runs : List (List Cell), runs.flatten = row → (∀ run ∈ runs, Admissible width run) →
        (∀ j, (runs.take j).flatten.length ≤
          ((spans.take j).flatMap (Span.cells row)).length) ∧
        spans.length ≤ runs.length) ∧
      (∀ width', width ≤ width' → (o.spans (.every width') line).length ≤ spans.length) ∧
      ∀ width', 0 < width' →
        let spans' := o.spans (.every width') line
        let fault? := spans'.findSome? (Span.fault? o row)
        (∀ fault, fault? = some fault →
          o.padding = true ∧ o.choices.fold (.every width') line = .error fault) ∧
        (fault? = none →
          o.choices.fold (.every width') line = .ok (spans'.map (Span.text o row))) := by
  intro row spans
  have hrow : o.row line = row := row_eq_cells he line
  have hne : o.row line ≠ [] := by rwa [hrow]
  have hflat : spans.flatMap (Span.cells row) = row := by
    have h := (o.consecutive_spans_every hw line).flatMap_cells (Nat.le_refl _)
    rwa [List.take_length, List.drop_zero, hrow] at h
  have hadmissible : ∀ s ∈ spans, Admissible width (s.cells row) := by
    intro s hs
    have hplaced := o.placed_of_mem_spans (Layout.ends_every hw) line s hs
    rw [← hrow, hplaced.cells_eq width (o.width_of_mem_spans_every hw hne s hs).2]
    exact Breaking.admissible_cut hw hk _
  refine ⟨hflat, hadmissible, ?_, ?_,
    fun width' hw' => o.choices_fold_by_padding he (Layout.ends_every hw') line⟩
  · intro runs hruns hall
    rw [← hrow] at hruns ⊢
    exact ⟨length_take_le_spans hw hb hk hne hruns hall,
      length_spans_le_runs hw hb hk hne hruns hall⟩
  · -- the spans of a narrower width are admissible runs for a wider one
    intro width' hle
    rw [List.flatMap_def] at hflat
    refine (length_spans_le_runs (Int.lt_of_lt_of_le hw hle) hb hk hne (hflat.trans hrow.symm)
      ?_).trans (List.length_map _).le
    intro run hrun
    obtain ⟨s, hs, rfl⟩ := List.mem_map.1 hrun
    exact (hadmissible s hs).mono hle

/-- Cells without columns before and after a glyph that is too wide, against a division that cuts
before them. -/
theorem fold_fewest_wide_glyph :
    let o : FoldOptions := { default with padding := true, filler := "." }
    let line := Text.ofString "a\u200b中\u0301\x1b[1m\u200bbc"
    let row := o.cells line
    let spans := o.spans (.every 1) line
    let runs := [row.take 1, (row.drop 1).take 2, (row.drop 3).take 2, (row.drop 5).take 1,
      row.drop 6]
    o.breaking.boundary = .anywhere ∧ o.breaking.kinsoku = .free ∧ o.expandTabs = false ∧
      (0 : Int) < 1 ∧ row ≠ [] ∧ runs.flatten = row ∧ (∀ run ∈ runs, Admissible 1 run) ∧
      spans.map (fun s => (s.start, s.stop)) = [(0, 2), (2, 5), (5, 6), (6, 7)] ∧
      spans.flatMap (Span.cells row) = row ∧ (∀ s ∈ spans, Admissible 1 (s.cells row)) ∧
      (∀ j, (runs.take j).flatten.length ≤ ((spans.take j).flatMap (Span.cells row)).length) ∧
      spans.length ≤ runs.length ∧ (o.spans (.every 3) line).length ≤ spans.length ∧
      o.choices.fold (.every 3) line =
        .ok (["a\u200b中\u0301\x1b[1m\u200b\x1b[m", "\x1b[1mbc."].map Text.ofString) := by
  intro o line row spans runs
  have hne : row ≠ [] := by decide +kernel
  have hruns : runs.flatten = row := by decide +kernel
  have hall : ∀ run ∈ runs, Admissible 1 run := by decide +kernel
  obtain ⟨hflat, hadmissible, hfewest, hwider, hfold⟩ :=
    fold_fewest (o := o) rfl rfl rfl Int.one_pos hne
  obtain ⟨hahead, hfewer⟩ := hfewest runs hruns hall
  refine ⟨rfl, rfl, rfl, Int.one_pos, hne, hruns, hall, by decide +kernel, hflat, hadmissible,
    hahead, hfewer, hwider 3 (by decide), ?_⟩
  have hnone : (o.spans (.every 3) line).findSome? (Span.fault? o row) = none := by
    decide +kernel
  rw [(hfold 3 (by decide)).2 hnone]
  exact congrArg Except.ok (by decide +kernel)

/-- **A line of which there is no fragment.**  It has one admissible run, but nobody can count the
columns that are to be padded, even with nothing. -/
theorem fold_fewest_not_ok :
    let o : FoldOptions := { default with padding := true, filler := "" }
    let line := Text.ofString "abc"
    let width : Int := 99999999999999999999
    let runs := [o.cells line]
    o.breaking.boundary = .anywhere ∧ o.breaking.kinsoku = .free ∧ o.expandTabs = false ∧
      0 < width ∧ o.cells line ≠ [] ∧ runs.flatten = o.cells line ∧
      (∀ run ∈ runs, Admissible width run) ∧
      ¬ ∃ fragments, o.choices.fold (.every width) line = .ok fragments ∧
        fragments.length ≤ runs.length := by
  intro o line width runs
  refine ⟨rfl, rfl, rfl, by decide, by decide +kernel, by decide +kernel, by decide +kernel, ?_⟩
  rintro ⟨fragments, hok, -⟩
  have hfault : o.choices.fault? (.every width) line = some (.repetition .uncountable) := by
    decide +kernel
  rw [o.choices_fold_of_some hfault] at hok
  cases hok

end FoldOptions
end ColumnFold
