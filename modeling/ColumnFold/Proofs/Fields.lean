import ColumnFold.Command.Stream
import ColumnFold.Proofs.Span

/-!
# The fields that are kept

A list of signed widths says all about the fields of a line at once: how wide they are, which of
them are kept, and what the last one is.  A plan says it by absolute widths, a flag and a mask that
is laid over the fragments.  Here the two are tied together: `Plan.kept` cuts a line by the signed
widths themselves, and what a plan selects is just that.

Where a line sets no attributes and nothing is padded, a fragment is nothing but the cells of its
slice.  So the output for such a line is what the kept cells spell.

* `Plan.kept` — the cells of the fields that signed widths keep.
* `Plan.select_slices_several` — a plan selects them.
* `FoldOptions.fold_eq_map_spell` — the fragments of a line that sets no attributes.
-/

set_option autoImplicit false

namespace ColumnFold

/-! ## Lines that set no attributes -/

/-- Whether no escape sequence among some cells sets attributes. -/
def Cell.NoAttributes (cells : List Cell) : Prop :=
  ∀ c ∈ cells, c.isEscape = true → Rendition.parameters? c.text = none

instance (cells : List Cell) : Decidable (Cell.NoAttributes cells) :=
  inferInstanceAs (Decidable (∀ c ∈ cells, c.isEscape = true → Rendition.parameters? c.text = none))

theorem Rendition.after_eq_nil {cells : List Cell} (h : Cell.NoAttributes cells) :
    Rendition.after [] cells = [] := by
  have hat := attributesAt_eq_nil h cells.length
  rwa [attributesAt_eq_after, List.take_length] at hat

namespace Layout

theorem flatMap_slices_every (b : Breaking) {width : Int} (hw : 0 < width) (cells : List Cell) :
    ((every width).slices b cells).flatMap Slice.cells = cells := by
  rw [slices, dif_pos hw]
  split
  · exact (List.isEmpty_iff.1 ‹_›).symm
  · exact flatMap_everySlices b width hw cells

theorem mem_of_mem_slices {b : Breaking} {layout : Layout} {cells : List Cell} {s : Slice}
    (hs : s ∈ layout.slices b cells) {c : Cell} (hc : c ∈ s.cells) : c ∈ cells := by
  have hmem : c ∈ (layout.slices b cells).flatMap Slice.cells := List.mem_flatMap.2 ⟨s, hs, hc⟩
  cases layout with
  | fields widths takeRest =>
    exact (flatMap_fieldSlices_isPrefix b takeRest widths cells).subset hmem
  | every width =>
    by_cases hw : 0 < width
    · rwa [flatMap_slices_every b hw cells] at hmem
    · rw [slices, dif_neg hw] at hmem
      cases hmem

end Layout

namespace FoldOptions

variable {o : FoldOptions}

theorem render_eq_map_spell (hp : o.padding = false) {slices : List Slice}
    (h : ∀ s ∈ slices, Cell.NoAttributes s.cells) :
    o.render [] slices = slices.map fun s => Cell.spell s.cells := by
  induction slices with
  | nil => rfl
  | cons s slices ih =>
    have hafter := Rendition.after_eq_nil (h s List.mem_cons_self)
    have hclosing : closing [] s = [] := if_neg fun hne => hne.2 rfl
    have hpad : o.pad s = [] := by
      rw [pad, hp]
      cases s.width <;> rfl
    rw [render, hafter, hclosing, hpad, ih fun t ht => h t (List.mem_cons_of_mem s ht)]
    simp

/-- **The fragments of a line that sets no attributes** are what its slices spell. -/
theorem fold_eq_map_spell (he : o.expandTabs = false) (hp : o.padding = false) {line : Text}
    (h : Cell.NoAttributes (o.cells line)) (layout : Layout) :
    o.fold layout line =
      (layout.slices o.breaking (o.cells line)).map fun s => Cell.spell s.cells := by
  have hprepare : o.prepare line = line := by
    rw [prepare, he]
    rfl
  rw [fold, slices, hprepare]
  exact render_eq_map_spell hp fun s hs c hc => h c (Layout.mem_of_mem_slices hs hc)

end FoldOptions

/-! ## What a plan selects -/

namespace Plan

/-- A plan selects by place, whatever the fragments are. -/
theorem select_map {α β : Type} (plan : Plan) (f : α → β) (fragments : List α) :
    plan.select (fragments.map f) = (plan.select fragments).map f := by
  cases hkeep : plan.keep with
  | none => rw [select, select, hkeep]
  | some keep =>
    rw [select, select, hkeep]
    dsimp only
    rw [List.zip_map_left, List.filter_map, List.map_map, List.map_map]
    rfl

/-- The cells of the fields that signed widths keep: fields of negative widths are cut off and
dropped, but the last field takes the rest of the line if its width is negative, and is not there at
all if its width is zero. -/
def kept (b : Breaking) : List Int → List Cell → List (List Cell)
  | [], _ => []
  | _ :: _, [] => []
  | [last], cells =>
    if last < 0 then [cells] else if last = 0 then [] else [(b.cut last cells).taken]
  | width :: widths, cells =>
    let s := b.cut width.natAbs cells
    if 0 ≤ width then s.taken :: kept b widths s.rest else kept b widths s.rest

@[simp] theorem kept_nil (b : Breaking) (widths : List Int) : kept b widths [] = [] := by
  cases widths <;> rfl

theorem kept_singleton (b : Breaking) (last : Int) {cells : List Cell} (h : cells ≠ []) :
    kept b [last] cells =
      if last < 0 then [cells] else if last = 0 then [] else [(b.cut last cells).taken] := by
  obtain ⟨c, cells, rfl⟩ := List.exists_cons_of_ne_nil h
  rfl

theorem flatten_kept_of_neg (b : Breaking) {last : Int} (h : last < 0) (cells : List Cell) :
    (kept b [last] cells).flatten = cells := by
  cases cells with
  | nil => rfl
  | cons c cells =>
    rw [kept_singleton b last (List.cons_ne_nil c cells), if_pos h, List.flatten_singleton]

theorem kept_cons (b : Breaking) (width : Int) {widths : List Int} (hw : widths ≠ [])
    {cells : List Cell} (h : cells ≠ []) :
    kept b (width :: widths) cells =
      (if 0 ≤ width then [(b.cut width.natAbs cells).taken] else []) ++
        kept b widths (b.cut width.natAbs cells).rest := by
  obtain ⟨c, cells, rfl⟩ := List.exists_cons_of_ne_nil h
  obtain ⟨v, widths, rfl⟩ := List.exists_cons_of_ne_nil hw
  rw [kept]
  · split <;> rfl
  · exact nofun
  · exact nofun

theorem several_concat (init : List Int) (last : Int) :
    several (init ++ [last]) =
      { layout := .fields (init.map (fun w => (w.natAbs : Int)) ++ [max last 0]) (last < 0)
        keep := some (init.map (fun w => decide (0 ≤ w)) ++ [true]) } := by
  simp [several]

theorem ofWidths_concat (default : Int) {init : List Int} (h : init ≠ []) (last : Int) :
    ofWidths default (init ++ [last]) = several (init ++ [last]) := by
  rcases init with _ | ⟨width, _ | ⟨width', init⟩⟩
  · exact absurd rfl h
  · rfl
  · rfl

/-- **What a plan for several widths selects** are the fields that the signed widths keep. -/
theorem select_slices_several (b : Breaking) (init : List Int) (last : Int) (cells : List Cell) :
    ((several (init ++ [last])).select
        ((several (init ++ [last])).layout.slices b cells)).map Slice.cells =
      kept b (init ++ [last]) cells := by
  rw [several_concat, select]
  dsimp only [Layout.slices]
  induction init generalizing cells with
  | nil =>
    rcases cells with _ | ⟨c, cells⟩
    · rfl
    · rw [List.nil_append, kept_singleton b last (List.cons_ne_nil c cells)]
      by_cases hneg : last < 0
      · simp [Layout.fieldSlices, hneg]
      · have hmax : max last 0 = last := Int.max_eq_left (Int.not_lt.1 hneg)
        by_cases hzero : last = 0
        · simp [Layout.fieldSlices, hzero]
        · simp [Layout.fieldSlices, hneg, hmax, hzero, Split.slice]
  | cons width init ih =>
    by_cases hc : cells = []
    · subst hc
      simp [Layout.fieldSlices]
    · rw [List.cons_append, kept_cons b width (by simp) hc, ← ih, List.map_cons, List.cons_append,
        Layout.fieldSlices_cons b _ _ (by simp) hc, List.map_cons, List.cons_append,
        List.zip_cons_cons, List.filter_cons]
      by_cases hkeep : 0 ≤ width
      · simp [hkeep, Split.slice]
      · simp [hkeep]

end Plan

/-! ## What is written for a line -/

theorem Text.intercalate_nil (texts : List Text) : List.intercalate [] texts = texts.flatten := by
  induction texts with
  | nil => rfl
  | cons t texts ih =>
    cases texts with
    | nil => simp
    | cons u texts =>
      rw [List.intercalate_cons_cons, ih, List.append_nil]
      rfl

theorem Cell.spell_flatten (fields : List (List Cell)) :
    spell fields.flatten = (fields.map spell).flatten := by
  induction fields with
  | nil => rfl
  | cons cells fields ih =>
    rw [List.flatten_cons, spell_append, ih, List.map_cons, List.flatten_cons]

namespace Config

/-- The configuration that divides lines by a plan and changes nothing else. -/
def ofPlan (plan : Plan) (separator : String) (files : List String) : Config where
  plan := plan
  separator := separator
  paragraph := 0
  choices := FoldOptions.default.choices
  files := files

/-- Nothing goes wrong with a line where nothing is padded or expanded. -/
theorem writtenLines_ofPlan (plan : Plan) (separator : String) (files : List String)
    (line : Text) :
    (ofPlan plan separator files).writtenLines [line] =
      .ok [(ofPlan plan separator files).foldLine (Line.body line) ++ Line.terminator line] := by
  have hfault : (ofPlan plan separator files).fault? line = none :=
    FoldChoices.fault?_eq_none rfl rfl rfl _ _
  rw [writtenLines, List.findSome?_cons, hfault]
  simp [processLine, emptyLines, ofPlan]

/-- A single negative width does nothing with a line but expand its tabs, if they are to be. -/
theorem foldLine_eq_prepare {c : Config} {width : Int} (hplan : c.plan = .single width)
    (hw : width < 0) (body : Text) : c.foldLine body = c.options.prepare body := by
  have hplan : c.plan = ⟨.fields [0] true, none⟩ := by rw [hplan, Plan.single, if_pos hw]
  have hspell : Cell.spell (c.options.cells (c.options.prepare body)) = c.options.prepare body :=
    Cell.spell_ofText _ _
  rw [foldLine, hplan, FoldOptions.fold, FoldOptions.slices]
  cases hcells : c.options.cells (c.options.prepare body) with
  | nil =>
    rw [hcells] at hspell
    exact hspell
  | cons d cells =>
    rw [hcells] at hspell
    simp [Layout.slices, Layout.fieldSlices, FoldOptions.render, FoldOptions.closing,
      FoldOptions.pad, Plan.select, hspell]

theorem foldLine_of_neg {c : Config} {width : Int} (hplan : c.plan = .single width)
    (hw : width < 0) (he : c.options.expandTabs = false) (body : Text) :
    c.foldLine body = body := by
  rw [foldLine_eq_prepare hplan hw, FoldOptions.prepare, he]
  rfl

theorem foldLine_of_zero {c : Config} (hplan : c.plan = .single 0) (body : Text) :
    c.foldLine body = [] := by
  rw [foldLine, hplan]
  rfl

theorem foldLine_several (init : List Int) (last : Int) (separator : String) (files : List String)
    {body : Text} (h : Cell.NoAttributes (FoldOptions.default.cells body)) :
    (ofPlan (.several (init ++ [last])) separator files).foldLine body =
      List.intercalate (Text.ofString separator)
        ((Plan.kept FoldOptions.default.breaking (init ++ [last])
          (FoldOptions.default.cells body)).map Cell.spell) := by
  have hselect : (Plan.several (init ++ [last])).select
      (FoldOptions.default.fold (Plan.several (init ++ [last])).layout body) =
        (Plan.kept FoldOptions.default.breaking (init ++ [last])
          (FoldOptions.default.cells body)).map Cell.spell := by
    rw [FoldOptions.fold_eq_map_spell rfl rfl h, Plan.select_map, ← Plan.select_slices_several,
      List.map_map]
    rfl
  exact congrArg (List.intercalate (Text.ofString separator)) hselect

end Config
end ColumnFold
