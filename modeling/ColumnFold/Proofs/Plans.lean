import ColumnFold.Proofs.Fragments

/-!
# Every plan can be run on every line

A plan repeats a width only if it is not negative, so that every cut makes progress, and it has an
entry of its mask for every field.  Folding by a plan therefore comes to an end, and no fragment is
dropped for want of an entry.

What can still go wrong is that columns are filled: the columns of a tab, or those that a fragment
is padded to.  A fill is a text that is repeated, and nobody repeats it beyond all limits.
`FoldOptions.fills` lists the fills of a line, and folding breaks off at the first of them that
cannot be written, and for no other reason (`FoldOptions.choices_fold_eq`).

* `Plan.WellFormed` — what holds of every plan (`Plan.wellFormed_ofWidths`).
* `FoldOptions.length_spans_every`, `FoldOptions.length_spans_le` — how many fragments there are.
* `Plan.fold_ofWidths` — what a plan does with a line.
-/

set_option autoImplicit false

namespace ColumnFold

/-! ## Plans -/

namespace Plan

/-- A plan has widths, none of which is negative, and an entry of its mask for each of them.  A
repeated width is the only one and has no mask, and a last field that takes the rest of the line has
the width zero. -/
structure WellFormed (plan : Plan) : Prop where
  /-- There are widths. -/
  widths_ne_nil : plan.layout.widths ≠ []
  /-- No width is negative. -/
  nonneg : ∀ width ∈ plan.layout.widths, 0 ≤ width
  /-- The mask has one entry for each width. -/
  length_keep : ∀ keep, plan.keep = some keep → keep.length = plan.layout.widths.length
  /-- A repeated width has no mask. -/
  keep_every : ∀ width, plan.layout = .every width → plan.keep = none
  /-- A field that takes the rest has the width zero. -/
  getLast?_widths : ∀ widths, plan.layout = .fields widths true → widths.getLast? = some 0

theorem wellFormed_single (width : Int) : (single width).WellFormed := by
  rw [single]
  split
  · exact ⟨by simp [Layout.widths], by simp [Layout.widths], nofun, nofun, by simp⟩
  · rename_i h
    exact ⟨by simp [Layout.widths], by simpa [Layout.widths] using h, nofun, fun _ _ => rfl,
      by simp⟩

theorem wellFormed_several (widths : List Int) : (several widths).WellFormed := by
  refine ⟨by simp [several, Layout.widths], fun width hmem => ?_, fun keep hkeep => ?_, nofun,
    fun ws hws => ?_⟩
  · simp only [several, Layout.widths, List.mem_append, List.mem_map, List.mem_singleton] at hmem
    obtain ⟨w, -, rfl⟩ | rfl := hmem <;> omega
  · obtain rfl := Option.some.inj hkeep
    simp [several, Layout.widths]
  · injection hws with hws hlast
    subst hws
    have hneg : widths.getLastD 0 < 0 := by simpa using hlast
    simp only [List.getLast?_concat, Option.some.injEq]
    omega

/-- **Every list of signed widths makes a well-formed plan.** -/
theorem wellFormed_ofWidths (default : Int) (widths : List Int) :
    (ofWidths default widths).WellFormed := by
  rw [ofWidths.eq_def]
  split
  · exact wellFormed_single default
  · exact wellFormed_single _
  · exact wellFormed_several _

end Plan

/-! ## Fills -/

/-- A text that is to be repeated. -/
structure Fill where
  /-- The text. -/
  text : String
  /-- How often it is repeated. -/
  count : Int
deriving DecidableEq

/-- Why a fill cannot be written, if it cannot. -/
def Fill.error? (f : Fill) : Option Repetition.Error := Repetition.textError? f.text.length f.count

/-- The columns that the tabs among cells reach over, where the cells begin at the column `col`. -/
def Tabs.reaches (tabs : Tabs) (col : Int) : List Cell → List Int
  | [] => []
  | c :: cells =>
    if c.isTab then tabs.reach col :: reaches tabs (col + tabs.reach col) cells
    else reaches tabs (col + c.width) cells

namespace FoldOptions

/-- The fills of the tabs of a line: the columns of each tab after its first one. -/
def tabFills (o : FoldOptions) (line : Text) : List Fill :=
  (o.tabs.reaches 0 (o.cells line)).map fun n => ⟨o.tabs.space, n - 1⟩

/-- The fills of the padded fragments of a line. -/
def padFills (o : FoldOptions) (layout : Layout) (line : Text) : List Fill :=
  (o.spans layout line).filterMap fun s =>
    let n := s.slack o (o.row line)
    if 0 < n then some ⟨o.filler, n⟩ else none

/-- Everything that is repeated to fill columns of a line, in the order in which it is written. -/
def fills (o : FoldOptions) (layout : Layout) (line : Text) : List Fill :=
  (if o.expandTabs then o.tabFills line else []) ++ o.padFills layout line

variable (o : FoldOptions)

/-- Expanding tabs goes wrong at the first tab that cannot be filled. -/
theorem tabFaultFrom?_eq (h : 0 < o.tabs.stop) (col : Int) (cells : List Cell) :
    o.choices.tabFaultFrom? col cells =
      (((o.tabs.reaches col cells).map fun n => (⟨o.tabs.space, n - 1⟩ : Fill)).findSome?
        Fill.error?).map .repetition := by
  have hfill : ∀ n, o.choices.fillFault? n =
      (Fill.error? ⟨o.tabs.space, n - 1⟩).map .repetition := fun n => by
    simp [FoldChoices.fillFault?, FoldChoices.repetitionFault?, choices, Fill.error?]
  induction cells generalizing col with
  | nil => rfl
  | cons c cells ih =>
    rw [FoldChoices.tabFaultFrom?, Tabs.reaches]
    split
    · split
      · rename_i hstop
        cases hstop
      · rename_i hstop
        have hzero : o.tabs.stop = 0 := Option.some.inj hstop
        omega
      · dsimp only
        rw [hfill, ih, List.map_cons, List.findSome?_cons, FoldChoices.options_choices]
        cases (Fill.error? ⟨o.tabs.space, o.tabs.reach col - 1⟩) <;> rfl
    · exact ih _

theorem tabFault?_eq (h : 0 < o.tabs.stop) (line : Text) :
    o.choices.tabFault? line = ((o.tabFills line).findSome? Fill.error?).map .repetition := by
  rw [tabFills, ← tabFaultFrom?_eq o h]
  simp [FoldChoices.tabFault?, choices, FoldChoices.options]

theorem slices_of_not_ends {layout : Layout} (h : ¬layout.Ends) (line : Text) :
    o.slices layout line = [⟨[], none, false⟩] := by
  cases layout with
  | fields widths takeRest => exact absurd (Layout.ends_fields widths takeRest) h
  | every width => exact dif_neg h

/-- Cutting and padding go wrong at the first fragment that cannot be padded. -/
theorem sliceFault?_eq (layout : Layout) (line : Text) :
    o.choices.sliceFault? (o.slices layout line) (o.row line) =
      ((o.padFills layout line).findSome? Fill.error?).map .repetition := by
  have hspans : o.choices.sliceFault? (o.slices layout line) (o.row line) =
      (o.spans layout line).findSome? (Span.fault? o (o.row line)) := by
    by_cases h : layout.Ends
    · obtain ⟨left, hd⟩ := layout.division_slices o.breaking h (o.row line)
      exact hd.sliceFault?_eq_findSome? o 0 rfl
    · rw [spans, o.slices_of_not_ends h]
      rfl
  rw [hspans, padFills, List.map_findSome?, ← List.head?_filterMap, ← List.head?_filterMap,
    List.filterMap_filterMap]
  congr 2
  funext s
  rw [Span.fault?]
  dsimp only
  split <;> rfl

theorem choices_fault?_eq (h : 0 < o.tabs.stop) (layout : Layout) (line : Text) :
    o.choices.fault? layout line =
      ((o.fills layout line).findSome? Fill.error?).map .repetition := by
  have hslices : o.choices.sliceFault? (o.choices.options.slices layout line)
      (o.choices.options.cells (o.choices.options.prepare line)) = _ :=
    o.sliceFault?_eq layout line
  rw [FoldChoices.fault?, hslices, o.tabFault?_eq h, fills,
    show o.choices.expandTabs = o.expandTabs from rfl]
  cases o.expandTabs with
  | false => rfl
  | true =>
    rw [if_pos rfl, if_pos rfl, List.findSome?_append]
    cases (o.tabFills line).findSome? Fill.error? <;> rfl

/-- **Folding breaks off at the first fill that cannot be written**, and for no other reason. -/
theorem choices_fold_eq (h : 0 < o.tabs.stop) (layout : Layout) (line : Text) :
    o.choices.fold layout line =
      match (o.fills layout line).findSome? Fill.error? with
      | some e => .error (.repetition e)
      | none => .ok (o.fold layout line) := by
  rw [FoldChoices.fold, o.choices_fault?_eq h]
  cases (o.fills layout line).findSome? Fill.error? <;> rfl

end FoldOptions

/-! ## How many fragments there are -/

/-- Consecutive spans that are not empty are no more than the positions that they cover. -/
theorem Span.Consecutive.length_le {n m : Nat} {spans : List Span} (h : Consecutive n m spans)
    (hlt : ∀ s ∈ spans, s.start < s.stop) : n + spans.length ≤ m := by
  induction spans generalizing n with
  | nil => exact Nat.le_of_eq h
  | cons s spans ih =>
    obtain ⟨rfl, h⟩ := h
    have hs := hlt s List.mem_cons_self
    have hle := ih h fun t ht => hlt t (List.mem_cons_of_mem s ht)
    rw [List.length_cons]
    omega

theorem Layout.length_fieldWidths (takeRest : Bool) (widths : List Int) :
    (fieldWidths takeRest widths).length = widths.length := by
  fun_induction fieldWidths takeRest widths <;> simp_all

namespace FoldOptions

variable (o : FoldOptions)

theorem length_fold (layout : Layout) (line : Text) :
    (o.fold layout line).length = (o.spans layout line).length := by
  rw [fold, length_render, spans, Span.length_ofSlices]

/-- A repeated width cuts a line into no more fragments than it has cells, or into a single one. -/
theorem length_spans_every {width : Int} (hw : 0 < width) (line : Text) :
    (o.spans (.every width) line).length ≤ max 1 (o.row line).length := by
  by_cases hrow : o.row line = []
  · rw [spans, o.slices_every_of_eq_nil hw hrow]
    exact Nat.le_max_left ..
  · have hle := (o.consecutive_spans_every hw line).length_le fun s hs =>
      (o.width_of_mem_spans_every hw hrow s hs).1
    omega

/-- Where no width is repeated, there is at most one fragment for each width. -/
theorem length_spans_le {layout : Layout} (h : ∀ width, layout = .every width → width ≤ 0)
    (line : Text) : (o.spans layout line).length ≤ layout.widths.length := by
  cases layout with
  | every width =>
    have hends : ¬(Layout.every width).Ends := Int.not_lt.2 (h width rfl)
    rw [spans, o.slices_of_not_ends hends]
    exact Nat.le_refl 1
  | fields widths takeRest =>
    obtain ⟨stop, -, -, hwidths, -⟩ := o.spans_fields takeRest widths line
    have hle := hwidths.length_le
    rwa [List.length_map, Layout.length_fieldWidths] at hle

end FoldOptions

/-! ## Plans and lines -/

/-- **Every plan can be run on every line.**  The plan for a list of signed widths is well-formed.
Folding a line by it gives its fragments, or breaks off at the first fill that cannot be written.
If a width is repeated, every cut lies beyond the one before it, so there are no more fragments than
cells; otherwise there are no more fragments than widths.  A mask has an entry for each of them. -/
theorem Plan.fold_ofWidths (default : Int) (signed : List Int) (o : FoldOptions)
    (hstop : 0 < o.tabs.stop) (line : Text) :
    let plan := ofWidths default signed
    let fragments := o.fold plan.layout line
    plan.WellFormed ∧
      ((∀ f ∈ o.fills plan.layout line, f.error? = none) →
        o.choices.fold plan.layout line = .ok fragments) ∧
      (∀ e, (o.fills plan.layout line).findSome? Fill.error? = some e →
        o.choices.fold plan.layout line = .error (.repetition e)) ∧
      (∀ width, plan.layout = .every width → 0 < width →
        (o.row line ≠ [] →
          Span.Consecutive 0 (o.row line).length (o.spans plan.layout line) ∧
            ∀ s ∈ o.spans plan.layout line, s.start < s.stop) ∧
          fragments.length ≤ max 1 (o.row line).length) ∧
      ((∀ width, plan.layout = .every width → width ≤ 0) →
        fragments.length ≤ plan.layout.widths.length) ∧
      ∀ keep, plan.keep = some keep → (fragments.zip keep).map Prod.fst = fragments := by
  intro plan fragments
  have hplan : plan.WellFormed := wellFormed_ofWidths default signed
  have hfold := o.choices_fold_eq hstop plan.layout line
  have hlength : fragments.length = (o.spans plan.layout line).length := o.length_fold _ _
  refine ⟨hplan, fun hfills => ?_, fun e he => ?_, fun width hlayout hw => ?_, fun hnone => ?_,
    fun keep hkeep => ?_⟩
  · rw [hfold, List.findSome?_eq_none_iff.2 hfills]
  · rw [hfold, he]
  · rw [hlength, hlayout]
    exact ⟨fun hrow => ⟨o.consecutive_spans_every hw line, fun s hs =>
      (o.width_of_mem_spans_every hw hrow s hs).1⟩, o.length_spans_every hw line⟩
  · rw [hlength]
    exact o.length_spans_le hnone line
  · refine List.map_fst_zip ?_
    rw [hplan.length_keep keep hkeep, hlength]
    refine o.length_spans_le (fun width hlayout => ?_) line
    rw [hplan.keep_every width hlayout] at hkeep
    cases hkeep

/-- Limits below zero, a tab, and words and punctuation that move cuts back. -/
theorem Plan.fold_ofWidths_negative_limits :
    let o : FoldOptions :=
      { FoldOptions.default with
        breaking := ⟨.word, .strict, -1, -3⟩
        padding := true
        expandTabs := true
        tabs := ⟨4, ">", "."⟩ }
    let line := Text.ofString "a\tb(中文,c)\x1b[31m"
    let repeated := ofWidths 72 [3]
    let several := ofWidths 72 [4, -2, 0, -1]
    0 < o.tabs.stop ∧ repeated.WellFormed ∧
      o.choices.fold repeated.layout line = .ok (o.fold repeated.layout line) ∧
      (o.fold repeated.layout line).length ≤ max 1 (o.row line).length ∧
      o.choices.fold several.layout line =
        .ok (["a>..", "b(", "", "中文,c)\x1b[31m"].map Text.ofString) ∧
      (o.fold several.layout line).length ≤ several.layout.widths.length := by
  intro o line repeated several
  have hstop : 0 < o.tabs.stop := by decide
  obtain ⟨hplan, hok, -, hevery, -⟩ := fold_ofWidths 72 [3] o hstop line
  obtain ⟨-, hok', -, -, hle, -⟩ := fold_ofWidths 72 [4, -2, 0, -1] o hstop line
  have hfragments : o.fold (ofWidths 72 [4, -2, 0, -1]).layout line =
      ["a>..", "b(", "", "中文,c)\x1b[31m"].map Text.ofString := by decide +kernel
  have hfold' := hok' (by decide +kernel)
  rw [hfragments] at hfold'
  exact ⟨hstop, hplan, hok (by decide +kernel), (hevery 3 rfl (by decide)).2, hfold',
    hle nofun⟩

/-- **A plan that cannot be run**: nobody can count the columns to which the line is to be
padded. -/
theorem Plan.fold_ofWidths_not_ok :
    let o : FoldOptions := { FoldOptions.default with padding := true, filler := "" }
    let plan := ofWidths 72 [99999999999999999999]
    0 < o.tabs.stop ∧
      ¬ ∃ fragments, o.choices.fold plan.layout (.ofString "abc") = .ok fragments := by
  intro o plan
  refine ⟨by decide, ?_⟩
  rintro ⟨fragments, hok⟩
  have hfault : o.choices.fault? plan.layout (.ofString "abc") =
      some (.repetition .uncountable) := by decide +kernel
  rw [o.choices_fold_of_some hfault] at hok
  cases hok

end ColumnFold
