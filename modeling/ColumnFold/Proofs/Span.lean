import ColumnFold.Choices
import ColumnFold.Proofs.Division

/-!
# Spans of a line

A slice holds cells but not their place in the line.  A `Span` has the place: the position of its
first cell and the position after its last one.  What a fragment shows can then be said in terms of
the line alone, without the rendition that is handed on from slice to slice: the attributes at the
beginning of a span are those of the sequences before it.

* `Span` — a stretch of the cells of a line.
* `attributesAt` — the attributes in force at a position of a line.
* `Span.text`, `Span.fault?` — the fragment of a span, or why its padding cannot be written.
* `Span.Placed` — what is known of every span of a line.
* `FoldOptions.fold_eq_map_text` — a line is folded into the fragments of its spans.
* `FoldOptions.choices_fold_eq_outcome` — what folding gives, faults included.
-/

set_option autoImplicit false

namespace ColumnFold

/-! ## Spans -/

/-- A stretch of the cells of a line. -/
structure Span where
  /-- The position of the first cell. -/
  start : Nat
  /-- The position after the last cell. -/
  stop : Nat
  /-- The width that the stretch was cut for, if it was. -/
  width : Option Int
  /-- A span does not end before it begins. -/
  start_le : start ≤ stop
deriving DecidableEq

/-- The attributes in force at a position of a line: those of the escape sequences before it. -/
def attributesAt (line : List Cell) (position : Nat) : Rendition :=
  (((line.take position).filter Cell.isEscape).map Cell.text).foldl Rendition.apply []

namespace Span

/-- The cells of a span. -/
def cells (line : List Cell) (s : Span) : List Cell := (line.take s.stop).drop s.start

/-- The sequences that restore the attributes at the beginning of a span. -/
def opening (line : List Cell) (s : Span) : Rendition := attributesAt line s.start

/-- The reset at the end of a span: there is one if attributes are in force there and the line goes
on. -/
def closing (line : List Cell) (s : Span) : Rendition :=
  if s.stop < line.length ∧ attributesAt line s.stop ≠ [] then [Rendition.reset] else []

/-- How many columns of a span are padded. -/
def slack (o : FoldOptions) (line : List Cell) (s : Span) : Int :=
  match s.width with
  | some width => if o.padding then max 0 (width - Cell.columns (s.cells line)) else 0
  | none => 0

/-- The fragment of a span. -/
def text (o : FoldOptions) (line : List Cell) (s : Span) : Text :=
  (s.opening line).flatten ++ Cell.spell (s.cells line) ++ (s.closing line).flatten ++
    (List.replicate (s.slack o line).toNat (Text.ofString o.filler)).flatten

/-- Why the padding of a span cannot be written, if it cannot. -/
def fault? (o : FoldOptions) (line : List Cell) (s : Span) : Option Fault :=
  if 0 < s.slack o line then
    (Repetition.textError? o.filler.length (s.slack o line)).map .repetition
  else none

/-- What folding gives for spans: their fragments, unless a padding cannot be written. -/
def outcome (o : FoldOptions) (line : List Cell) (spans : List Span) : Except Fault (List Text) :=
  match spans.findSome? (fault? o line) with
  | some fault => .error fault
  | none => .ok (spans.map (text o line))

/-- The spans of slices that begin at a position. -/
def ofSlices (start : Nat) : List Slice → List Span
  | [] => []
  | s :: slices =>
    ⟨start, start + s.cells.length, s.width, Nat.le_add_right _ _⟩ ::
      ofSlices (start + s.cells.length) slices

/-- The spans follow each other without gaps from the position `n` to the position `m`. -/
def Consecutive (n m : Nat) : List Span → Prop
  | [] => n = m
  | s :: spans => s.start = n ∧ Consecutive s.stop m spans

/-- A span that a division leads to: it was cut for its width from what the line holds from its
beginning on, or it has no width and is the rest of the line. -/
structure Placed (b : Breaking) (line : List Cell) (s : Span) : Prop where
  /-- A span lies inside the line. -/
  stop_le : s.stop ≤ line.length
  /-- A span with a width begins before the end of the line. -/
  start_lt : ∀ width, s.width = some width → s.start < line.length
  /-- A span with a width holds what a cut takes. -/
  cells_eq : ∀ width, s.width = some width →
    s.cells line = (b.cut width (line.drop s.start)).taken
  /-- A span without a width is the rest of the line. -/
  stop_eq : s.width = none → s.stop = line.length

@[simp] theorem map_width_ofSlices (start : Nat) (slices : List Slice) :
    (ofSlices start slices).map Span.width = slices.map Slice.width := by
  induction slices generalizing start with
  | nil => rfl
  | cons s slices ih => rw [ofSlices, List.map_cons, List.map_cons, ih]

@[simp] theorem length_ofSlices (start : Nat) (slices : List Slice) :
    (ofSlices start slices).length = slices.length := by
  have h := congrArg List.length (map_width_ofSlices start slices)
  rwa [List.length_map, List.length_map] at h

theorem cells_append {line : List Cell} {n : Nat} {taken rest : List Cell}
    (h : line.drop n = taken ++ rest) (width : Option Int) :
    cells line ⟨n, n + taken.length, width, Nat.le_add_right _ _⟩ = taken ∧
      line.drop (n + taken.length) = rest := by
  constructor
  · rw [cells, List.drop_take, h, Nat.add_sub_cancel_left, List.take_left]
  · rw [← List.drop_drop, h, List.drop_left]

end Span

theorem Span.take_stop (line : List Cell) (s : Span) :
    line.take s.stop = line.take s.start ++ s.cells line := by
  have htake : line.take s.start = (line.take s.stop).take s.start := by
    rw [List.take_take, Nat.min_eq_left s.start_le]
  rw [htake, cells, List.take_append_drop]

theorem Span.drop_start (line : List Cell) (s : Span) :
    line.drop s.start = s.cells line ++ line.drop s.stop := by
  have hstop : line.drop s.stop = (line.drop s.start).drop (s.stop - s.start) := by
    rw [List.drop_drop, Nat.add_sub_cancel' s.start_le]
  rw [cells, List.drop_take, hstop, List.take_append_drop]

theorem Span.mem_drop_of_mem_cells {line : List Cell} {s : Span} {c : Cell} (h : c ∈ s.cells line)
    {n : Nat} (hn : n ≤ s.start) : c ∈ line.drop n := by
  refine List.drop_subset_drop_left line hn ?_
  rw [s.drop_start]
  exact List.mem_append_left _ h

/-- After a span that was cut for a width comes what the cut leaves. -/
theorem Span.Placed.drop_stop {b : Breaking} {line : List Cell} {s : Span} (h : s.Placed b line)
    {width : Int} (hs : s.width = some width) :
    line.drop s.stop = (b.cut width (line.drop s.start)).rest := by
  have happend := b.cut_append width (line.drop s.start)
  rw [← h.cells_eq width hs] at happend
  exact List.append_cancel_left (happend.trans (s.drop_start line)).symm

/-- A span that was cut for a positive width is not empty. -/
theorem Span.Placed.start_lt_stop {b : Breaking} {line : List Cell} {s : Span}
    (h : s.Placed b line) {width : Int} (hs : s.width = some width) (hw : 0 < width) :
    s.start < s.stop := by
  have hdrop : line.drop s.start ≠ [] := by
    rw [Ne, List.drop_eq_nil_iff, Nat.not_le]
    exact h.start_lt width hs
  have hne := b.cut_taken_ne_nil hw hdrop
  rw [← h.cells_eq width hs, cells, Ne, List.drop_eq_nil_iff, List.length_take, Nat.not_le] at hne
  omega

namespace Span.Consecutive

variable {line : List Cell} {spans : List Span} {n m : Nat}

theorem le (h : Consecutive n m spans) : n ≤ m := by
  induction spans generalizing n with
  | nil => exact Nat.le_of_eq h
  | cons s spans ih =>
    obtain ⟨rfl, h⟩ := h
    exact Nat.le_trans s.start_le (ih h)

theorem le_start (h : Consecutive n m spans) : ∀ s ∈ spans, n ≤ s.start := by
  induction spans generalizing n with
  | nil => simp
  | cons t spans ih =>
    obtain ⟨rfl, h⟩ := h
    intro s hs
    rcases List.mem_cons.1 hs with rfl | hs
    · exact Nat.le_refl _
    · exact Nat.le_trans t.start_le (ih h s hs)

/-- A property that holds where consecutive spans begin, and not where one of them does, is lost
across an earlier span. -/
theorem exists_across {P : Nat → Prop} (h : Consecutive n m spans) (hn : P n) :
    ∀ s ∈ spans, ¬P s.start → ∃ t ∈ spans, t.stop ≤ s.start ∧ P t.start ∧ ¬P t.stop := by
  induction spans generalizing n with
  | nil => simp
  | cons t spans ih =>
    obtain ⟨rfl, h⟩ := h
    intro s hs hp
    rcases List.mem_cons.1 hs with rfl | hs
    · exact absurd hn hp
    · by_cases ht : P t.stop
      · obtain ⟨u, hu, hacross⟩ := ih h ht s hs hp
        exact ⟨u, List.mem_cons_of_mem t hu, hacross⟩
      · exact ⟨t, List.mem_cons_self, h.le_start s hs, hn, ht⟩

theorem flatMap_cells (h : Consecutive n m spans) (hm : m ≤ line.length) :
    spans.flatMap (Span.cells line) = (line.take m).drop n := by
  induction spans generalizing n with
  | nil =>
    obtain rfl : n = m := h
    rw [List.flatMap_nil, List.drop_eq_nil_of_le (List.length_take_le n line)]
  | cons s spans ih =>
    obtain ⟨rfl, h⟩ := h
    have hle := s.start_le
    have hsm := h.le
    have htake : line.take s.stop = (line.take m).take s.stop := by
      rw [List.take_take, Nat.min_eq_left hsm]
    have hlen : s.start ≤ ((line.take m).take s.stop).length := by
      rw [List.length_take, List.length_take]
      omega
    rw [List.flatMap_cons, ih h, Span.cells, htake, ← List.drop_append_of_le_length hlen,
      List.take_append_drop]

end Span.Consecutive

/-! ## Attributes along a line -/

theorem Rendition.after_eq_foldl (active : Rendition) (cells : List Cell) :
    active.after cells =
      ((cells.filter Cell.isEscape).map Cell.text).foldl Rendition.apply active := by
  induction cells generalizing active with
  | nil => rfl
  | cons c cells ih =>
    rw [after_cons, ih]
    cases c with
    | glyph head tail width => rfl
    | escape body => rfl

theorem attributesAt_eq_after (line : List Cell) (position : Nat) :
    attributesAt line position = Rendition.after [] (line.take position) :=
  (Rendition.after_eq_foldl _ _).symm

theorem attributesAt_eq_nil {line : List Cell}
    (h : ∀ c ∈ line, c.isEscape = true → Rendition.parameters? c.text = none) (position : Nat) :
    attributesAt line position = [] := by
  have hseq : ∀ seqs : List Text, (∀ seq ∈ seqs, Rendition.parameters? seq = none) →
      seqs.foldl Rendition.apply [] = [] := by
    intro seqs hs
    induction seqs with
    | nil => rfl
    | cons seq seqs ih =>
      rw [List.foldl_cons, Rendition.apply, hs seq List.mem_cons_self]
      exact ih fun t ht => hs t (List.mem_cons_of_mem seq ht)
  refine hseq _ fun seq hmem => ?_
  obtain ⟨c, hc, rfl⟩ := List.mem_map.1 hmem
  obtain ⟨hc, he⟩ := List.mem_filter.1 hc
  exact h c (List.mem_of_mem_take hc) he

theorem attributesAt_add {line : List Cell} {n : Nat} {taken rest : List Cell}
    (h : line.drop n = taken ++ rest) :
    attributesAt line (n + taken.length) = (attributesAt line n).after taken := by
  rw [attributesAt_eq_after, attributesAt_eq_after, List.take_add, h, List.take_left,
    Rendition.after_append]

/-- One slice and its span have the same fragment. -/
theorem Span.text_ofSlice (o : FoldOptions) {line : List Cell} {start : Nat} (s : Slice)
    {rest : List Cell} (hd : line.drop start = s.cells ++ rest) (hm : s.more = !rest.isEmpty) :
    (attributesAt line start).flatten ++ Cell.spell s.cells ++
        FoldOptions.closing ((attributesAt line start).after s.cells) s ++ o.pad s =
      Span.text o line ⟨start, start + s.cells.length, s.width, Nat.le_add_right _ _⟩ := by
  have hcells := (Span.cells_append hd s.width).1
  have hclosing : FoldOptions.closing ((attributesAt line start).after s.cells) s =
      (Span.closing line ⟨start, _, s.width, Nat.le_add_right _ s.cells.length⟩).flatten := by
    have hl := congrArg List.length hd
    rw [List.length_drop, List.length_append] at hl
    have hmore : s.more = true ↔ start + s.cells.length < line.length := by
      rw [hm, Bool.not_eq_true', List.isEmpty_eq_false_iff, ← List.length_pos_iff]
      omega
    simp only [FoldOptions.closing, closing, hmore, attributesAt_add hd]
    split <;> simp
  have hpad : o.pad s = (List.replicate
      (Span.slack o line ⟨start, _, s.width, Nat.le_add_right _ s.cells.length⟩).toNat
      (Text.ofString o.filler)).flatten := by
    simp only [FoldOptions.pad, slack, hcells]
    cases s.width with
    | none => rfl
    | some width =>
      cases o.padding with
      | false => rfl
      | true =>
        simp only [if_true, Repetition.times_eq]
        congr 2
        omega
  rw [text, opening, hcells, hclosing, hpad]

theorem Span.padFault?_eq_fault? (o : FoldOptions) {line : List Cell} {start stop : Nat}
    {width : Int} {s : Slice} (hle : start ≤ stop)
    (hs : Span.cells line ⟨start, stop, some width, hle⟩ = s.cells) :
    o.choices.padFault? width s = Span.fault? o line ⟨start, stop, some width, hle⟩ := by
  simp only [FoldChoices.padFault?, Span.fault?, Span.slack, hs, FoldOptions.choices]
  generalize width - (Cell.columns s.cells : Int) = n
  by_cases hp : o.padding = true
  · by_cases hn : 0 < n
    · have hmax : max 0 n = n := by omega
      simp [hp, hn, hmax, FoldChoices.repetitionFault?]
    · have hmax : max 0 n = 0 := by omega
      simp [hp, hn, hmax]
  · simp [hp]

/-! ## The spans of a division -/

namespace Division

variable {b : Breaking} {cells left line : List Cell} {slices : List Slice}

theorem placed (h : Division b cells slices left) {start : Nat} (hd : line.drop start = cells)
    (hs : start ≤ line.length) : ∀ s ∈ Span.ofSlices start slices, s.Placed b line := by
  induction h generalizing start with
  | stop cells => simp [Span.ofSlices]
  | blank =>
    intro s hmem
    obtain rfl := List.mem_singleton.1 hmem
    have hle := List.drop_eq_nil_iff.1 hd
    exact ⟨hs, nofun, nofun, fun _ => Nat.le_antisymm hs hle⟩
  | @rest cells hc =>
    intro s hmem
    obtain rfl := List.mem_singleton.1 hmem
    have hl := congrArg List.length hd
    rw [List.length_drop] at hl
    have hstop : start + cells.length = line.length := by omega
    exact ⟨Nat.le_of_eq hstop, nofun, nofun, fun _ => hstop⟩
  | @cut cells slices left width hc h ih =>
    have ha := b.cut_append width cells
    rw [← ha] at hd
    obtain ⟨hcells, hrest⟩ := Span.cells_append hd (some width)
    have hlen := congrArg List.length hd
    rw [List.length_drop, List.length_append] at hlen
    have hpos := List.length_pos_iff.2 hc
    rw [← ha, List.length_append] at hpos
    intro s hmem
    rcases List.mem_cons.1 hmem with rfl | hmem
    · refine ⟨?_, fun _ _ => ?_, fun v hv => ?_, nofun⟩
      · show start + (b.cut width cells).taken.length ≤ line.length
        omega
      · show start < line.length
        omega
      · obtain rfl : width = v := Option.some.inj hv
        refine hcells.trans ?_
        show _ = (b.cut width (line.drop start)).taken
        rw [hd, ha]
    · exact ih hrest (show start + (b.cut width cells).taken.length ≤ line.length by omega) s hmem

/-- The spans of a division follow each other up to what is left. -/
theorem consecutive (h : Division b cells slices left) (start : Nat) :
    Span.Consecutive start (start + (cells.length - left.length)) (Span.ofSlices start slices) := by
  induction h generalizing start with
  | stop cells =>
    show start = start + (cells.length - cells.length)
    omega
  | blank => exact ⟨rfl, rfl⟩
  | rest hc => exact ⟨rfl, rfl⟩
  | @cut cells slices left width hc h ih =>
    have ha := congrArg List.length (b.cut_append width cells)
    rw [List.length_append] at ha
    have hl := h.isSuffix.length_le
    have hstop : start + (cells.length - left.length) =
        start + (b.cut width cells).taken.length +
          ((b.cut width cells).rest.length - left.length) := by omega
    rw [hstop]
    exact ⟨rfl, ih _⟩

theorem render_eq_map_text (o : FoldOptions) (h : Division b cells slices left) (start : Nat)
    (hd : line.drop start = cells) :
    o.render (attributesAt line start) slices =
      (Span.ofSlices start slices).map (Span.text o line) := by
  induction h generalizing start with
  | stop cells => rfl
  | blank =>
    have hd : line.drop start = [] ++ [] := hd
    rw [FoldOptions.render, Span.text_ofSlice o ⟨[], none, false⟩ hd rfl]
    rfl
  | @rest cells hc =>
    rw [← List.append_nil cells] at hd
    rw [FoldOptions.render, Span.text_ofSlice o ⟨cells, none, false⟩ hd rfl]
    rfl
  | @cut cells slices left width hc h ih =>
    rw [← b.cut_append width cells] at hd
    rw [FoldOptions.render, Span.text_ofSlice o ((b.cut width cells).slice width) hd rfl]
    have hat : (attributesAt line start).after (b.cut width cells).taken =
        attributesAt line (start + (b.cut width cells).taken.length) :=
      (attributesAt_add hd).symm
    have hrest := (Span.cells_append hd none).2
    exact congrArg (_ :: ·) (hat ▸ ih _ hrest)

/-- The first fault in folding a division is the first padding that cannot be written. -/
theorem sliceFault?_eq_findSome? (o : FoldOptions) (h : Division b cells slices left) (start : Nat)
    (hd : line.drop start = cells) :
    o.choices.sliceFault? slices cells =
      (Span.ofSlices start slices).findSome? (Span.fault? o line) := by
  induction h generalizing start with
  | stop cells => rfl
  | blank => rfl
  | rest hc => rfl
  | @cut cells slices left width hc h ih =>
    rw [← b.cut_append width cells] at hd
    obtain ⟨hcells, hrest⟩ := Span.cells_append hd (some width)
    have hfault : o.choices.padFault? width ((b.cut width cells).slice width) =
        Span.fault? o line ⟨start, _, some width, Nat.le_add_right _ _⟩ :=
      Span.padFault?_eq_fault? o _ hcells
    have hcut : o.choices.cutFault? width cells = none := by
      rw [FoldChoices.cutFault?]
      exact if_pos rfl
    rw [Span.ofSlices, List.findSome?_cons, FoldChoices.sliceFault?]
    simp only [Split.slice] at hfault ⊢
    rw [Option.bind_some, hcut, hfault, b.drop_cut, ih _ hrest]
    cases Span.fault? o line
      ⟨start, start + (b.cut width cells).taken.length, some width, _⟩ <;> rfl

end Division

/-! ## The spans of a line -/

namespace FoldOptions

/-- The cells of a line as it is cut. -/
def row (o : FoldOptions) (line : Text) : List Cell := o.cells (o.prepare line)

/-- The spans of a line. -/
def spans (o : FoldOptions) (layout : Layout) (line : Text) : List Span :=
  Span.ofSlices 0 (o.slices layout line)

theorem row_eq_cells {o : FoldOptions} (he : o.expandTabs = false) (line : Text) :
    o.row line = o.cells line := by
  rw [row, prepare, he]
  rfl

variable (o : FoldOptions) {layout : Layout}

theorem placed_of_mem_spans (h : layout.Ends) (line : Text) :
    ∀ s ∈ o.spans layout line, s.Placed o.breaking (o.row line) := by
  obtain ⟨left, hd⟩ := layout.division_slices o.breaking h (o.row line)
  exact hd.placed rfl (Nat.zero_le _)

/-- **A line is folded into the fragments of its spans.** -/
theorem fold_eq_map_text (h : layout.Ends) (line : Text) :
    o.fold layout line = (o.spans layout line).map (Span.text o (o.row line)) := by
  obtain ⟨left, hd⟩ := layout.division_slices o.breaking h (o.row line)
  exact hd.render_eq_map_text o 0 rfl

/-- Why the tabs of a line cannot be expanded, if they are to be and cannot. -/
def prepareFault? (line : Text) : Option Fault :=
  if o.expandTabs then o.choices.tabFault? line else none

/-- The first thing that goes wrong is a tab, and then the first padding. -/
theorem choices_fault?_eq_or (h : layout.Ends) (line : Text) :
    o.choices.fault? layout line =
      (o.prepareFault? line).or
        ((o.spans layout line).findSome? (Span.fault? o (o.row line))) := by
  obtain ⟨left, hd⟩ := layout.division_slices o.breaking h (o.row line)
  exact (congrArg (o.prepareFault? line <|> ·) (hd.sliceFault?_eq_findSome? o 0 rfl)).trans
    Option.orElse_eq_or

theorem choices_fold_of_some {line : Text} {fault : Fault}
    (h : o.choices.fault? layout line = some fault) :
    o.choices.fold layout line = .error fault := by
  rw [FoldChoices.fold, h]

theorem choices_fold_of_none (h : layout.Ends) {line : Text}
    (hnone : o.choices.fault? layout line = none) :
    o.choices.fold layout line = .ok ((o.spans layout line).map (Span.text o (o.row line))) := by
  rw [FoldChoices.fold, hnone]
  show Except.ok (o.choices.options.fold layout line) = _
  rw [FoldChoices.options_choices, o.fold_eq_map_text h]

theorem choices_fold_eq_ok_iff (h : layout.Ends) {line : Text} {fragments : List Text} :
    o.choices.fold layout line = .ok fragments ↔
      o.choices.fault? layout line = none ∧
        fragments = (o.spans layout line).map (Span.text o (o.row line)) := by
  cases hfault : o.choices.fault? layout line with
  | some fault => simp [o.choices_fold_of_some hfault]
  | none => simp [o.choices_fold_of_none h hfault, eq_comm]

/-- **What folding gives**: the fragments of the spans of the line, unless its tabs cannot be
expanded or a padding cannot be written. -/
theorem choices_fold_eq_outcome (h : layout.Ends) (line : Text) :
    o.choices.fold layout line =
      match o.prepareFault? line with
      | some fault => .error fault
      | none => Span.outcome o (o.row line) (o.spans layout line) := by
  have hfault := o.choices_fault?_eq_or h line
  rw [Span.outcome]
  cases hprepare : o.prepareFault? line with
  | some fault =>
    rw [hprepare, Option.some_or] at hfault
    exact o.choices_fold_of_some hfault
  | none =>
    rw [hprepare, Option.none_or] at hfault
    cases hspans : (o.spans layout line).findSome? (Span.fault? o (o.row line)) with
    | some fault => exact o.choices_fold_of_some (hfault.trans hspans)
    | none => exact o.choices_fold_of_none h (hfault.trans hspans)

theorem choices_fold (he : o.expandTabs = false) (h : layout.Ends) (line : Text) :
    o.choices.fold layout line = Span.outcome o (o.row line) (o.spans layout line) := by
  have hnone : o.prepareFault? line = none := by
    rw [prepareFault?, he]
    rfl
  rw [o.choices_fold_eq_outcome h, hnone]

end FoldOptions
end ColumnFold
