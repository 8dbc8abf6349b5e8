import ColumnFold.Proofs.Fragments

/-!
# One width, repeated or listed

A width can be repeated until a line is used up, or be listed as often as there are to be fields.
Two recursions do this, and the one for fields has exits of its own: at the last width, at a last
width of zero, at the rest of the line.  None of them disturbs what was cut before
(`Layout.fieldSlices_replicate_append`): after `k` cuts both recursions have taken the same slices
and stand before the same cells, and only then do the widths after the first `k` matter.  So the
fields are the first `k` spans of the repeated width, and the rest of the line is one span over all
the others (`Span.toEnd`).

Where a padding cannot be written, the repeated width gives no fragments at all.  The fields may
still give theirs: the padding is no concern of theirs if it is that of a fragment beyond the
first `k`.

* `Span.toEnd` — the spans up to the end of a line, as one span.
* `FoldOptions.spans_fields_replicate` — the spans of fields of one width.
* `FoldOptions.fold_replicate` — what fields of one width give.
-/

set_option autoImplicit false

namespace ColumnFold

/-! ## Slices -/

namespace Layout

variable {b : Breaking} {width : Int}

/-- A field of positive width is cut off, unless it is the last one and takes the rest. -/
theorem fieldSlices_cons_of_pos (hw : 0 < width) {takeRest : Bool} {widths : List Int}
    (h : takeRest = false ∨ widths ≠ []) {cells : List Cell} (hc : cells ≠ []) :
    fieldSlices b takeRest (width :: widths) cells =
      (b.cut width cells).slice width ::
        fieldSlices b takeRest widths (b.cut width cells).rest := by
  rcases widths with _ | ⟨v, widths⟩
  · obtain rfl : takeRest = false := h.resolve_right fun hne => hne rfl
    rw [fieldSlices_singleton false width hc, if_neg Bool.false_ne_true,
      if_neg (Int.ne_of_gt hw), fieldSlices]
  · exact fieldSlices_cons b takeRest width (List.cons_ne_nil v widths) hc

/-- **Fields that begin with one width, `k` times over.**  They begin with the first `k` slices of
the repeated width, and go on with the cells of the others. -/
theorem fieldSlices_replicate_append (hw : 0 < width) {takeRest : Bool} {widths : List Int}
    (h : takeRest = false ∨ widths ≠ []) (k : Nat) (cells : List Cell) :
    fieldSlices b takeRest (List.replicate k width ++ widths) cells =
      (everySlices b width hw cells).take k ++
        fieldSlices b takeRest widths
          (((everySlices b width hw cells).drop k).flatMap Slice.cells) := by
  induction k generalizing cells with
  | zero =>
    rw [List.replicate_zero, List.nil_append, List.take_zero, List.nil_append, List.drop_zero,
      flatMap_everySlices]
  | succ k ih =>
    by_cases hc : cells = []
    · subst hc
      cases widths <;> simp [everySlices, fieldSlices, List.replicate_succ]
    · have hrest : takeRest = false ∨ List.replicate k width ++ widths ≠ [] :=
        h.imp_right fun hne hnil => hne (List.append_eq_nil_iff.1 hnil).2
      rw [List.replicate_succ, List.cons_append, fieldSlices_cons_of_pos hw hrest hc, ih,
        everySlices_of_ne_nil width hw hc, List.take_succ_cons, List.drop_succ_cons,
        List.cons_append]

/-- No slice of a repeated width is empty. -/
theorem cells_ne_nil_of_mem_everySlices (hw : 0 < width) (cells : List Cell) :
    ∀ s ∈ everySlices b width hw cells, s.cells ≠ [] := by
  fun_induction everySlices b width hw cells with
  | case1 => simp
  | case2 c cells ih =>
    intro s hs
    rcases List.mem_cons.1 hs with rfl | hs
    · exact b.cut_taken_ne_nil hw (List.cons_ne_nil c cells)
    · exact ih s hs

end Layout

/-! ## Spans -/

namespace Span

theorem take_ofSlices (start k : Nat) (slices : List Slice) :
    (ofSlices start slices).take k = ofSlices start (slices.take k) := by
  induction slices generalizing start k with
  | nil => simp [ofSlices]
  | cons s slices ih =>
    cases k with
    | zero => rfl
    | succ k => rw [ofSlices, List.take_succ_cons, ih, List.take_succ_cons, ofSlices]

theorem drop_ofSlices (start k : Nat) (slices : List Slice) :
    (ofSlices start slices).drop k =
      ofSlices (start + ((slices.take k).flatMap Slice.cells).length) (slices.drop k) := by
  induction slices generalizing start k with
  | nil => simp [ofSlices]
  | cons s slices ih =>
    cases k with
    | zero => rfl
    | succ k =>
      rw [ofSlices, List.drop_succ_cons, ih, List.drop_succ_cons, List.take_succ_cons,
        List.flatMap_cons, List.length_append, Nat.add_assoc]

theorem ofSlices_append (start : Nat) (slices slices' : List Slice) :
    ofSlices start (slices ++ slices') =
      ofSlices start slices ++ ofSlices (start + (slices.flatMap Slice.cells).length) slices' := by
  have htake := take_ofSlices start slices.length (slices ++ slices')
  have hdrop := drop_ofSlices start slices.length (slices ++ slices')
  rw [List.take_left] at htake
  rw [List.take_left, List.drop_left] at hdrop
  rw [← htake, ← hdrop, List.take_append_drop]

/-- The spans from the first one on to the end of a line, as one span without a width; nothing if
there are none. -/
def toEnd (line : List Cell) : List Span → List Span
  | [] => []
  | s :: _ => [⟨s.start, max s.start line.length, none, Nat.le_max_left ..⟩]

theorem length_toEnd (line : List Cell) (spans : List Span) (k : Nat) :
    (toEnd line (spans.drop k)).length = if k < spans.length then 1 else 0 := by
  split
  · rename_i h
    rw [List.drop_eq_getElem_cons h]
    rfl
  · rename_i h
    rw [List.drop_eq_nil_of_le (Nat.not_lt.1 h)]
    rfl

theorem width_of_mem_toEnd {line : List Cell} {spans : List Span} :
    ∀ s ∈ toEnd line spans, s.width = none := by
  cases spans with
  | nil => simp [toEnd]
  | cons t spans => simp [toEnd]

/-- A span up to the end of a line holds what the spans hold that reach there. -/
theorem flatMap_cells_toEnd {line : List Cell} {spans : List Span} {n : Nat}
    (h : Consecutive n line.length spans) :
    (toEnd line spans).flatMap (cells line) = spans.flatMap (cells line) := by
  rw [h.flatMap_cells (Nat.le_refl _)]
  cases spans with
  | nil =>
    obtain rfl : n = line.length := h
    rw [List.take_length, List.drop_length, toEnd, List.flatMap_nil]
  | cons s spans =>
    have hle := h.le
    obtain ⟨rfl, -⟩ := h
    simp only [toEnd, List.flatMap_singleton, cells, Nat.max_eq_right hle]

/-- The cells of slices that reach to the end of a line are the rest of the line. -/
theorem toEnd_ofSlices (b : Breaking) {line : List Cell} {start : Nat} {slices : List Slice}
    (hne : ∀ s ∈ slices, s.cells ≠ [])
    (hlen : start + (slices.flatMap Slice.cells).length = line.length) :
    ofSlices start (Layout.fieldSlices b true [0] (slices.flatMap Slice.cells)) =
      toEnd line (ofSlices start slices) := by
  cases slices with
  | nil => rfl
  | cons s slices =>
    have hcells : (s :: slices).flatMap Slice.cells ≠ [] := fun h =>
      hne s List.mem_cons_self (List.append_eq_nil_iff.1 h).1
    have hmax : max start line.length = line.length := by omega
    rw [Layout.fieldSlices_singleton true 0 hcells, if_pos rfl]
    simp only [ofSlices, toEnd, hlen, hmax]

theorem Consecutive.drop {n m : Nat} {spans : List Span} (h : Consecutive n m spans) (k : Nat) :
    ∃ start, Consecutive start m (spans.drop k) := by
  induction k generalizing n spans with
  | zero => exact ⟨n, h⟩
  | succ k ih =>
    cases spans with
    | nil => exact ⟨n, h⟩
    | cons s spans => exact ih h.2

end Span

/-! ## What spans give -/

namespace Span

variable {o : FoldOptions} {line : List Cell} {spans : List Span}

theorem fault?_of_width_eq_none {s : Span} (h : s.width = none) : s.fault? o line = none := by
  rw [fault?, slack, h]
  rfl

/-- Spans without faults give their fragments after those of the spans before them. -/
theorem outcome_append (spans : List Span) {spans' : List Span}
    (h : ∀ s ∈ spans', s.fault? o line = none) :
    outcome o line (spans ++ spans') =
      (outcome o line spans).map (· ++ spans'.map (text o line)) := by
  rw [outcome, outcome, List.findSome?_append, List.findSome?_eq_none_iff.2 h, Option.or_none,
    List.map_append]
  cases spans.findSome? (fault? o line) <;> rfl

end Span

/-! ## Fields of one width -/

namespace FoldOptions

variable (o : FoldOptions) {width : Int} (hw : 0 < width) {line : Text} (hne : o.row line ≠ [])
include hw hne

/-- **The spans of fields of one width** are the first spans of the repeated width.  A width of zero
after them adds nothing, unless it takes the rest of the line. -/
theorem spans_fields_replicate (k : Nat) :
    o.spans (.fields (List.replicate k width) false) line =
        (o.spans (.every width) line).take k ∧
      o.spans (.fields (List.replicate k width ++ [0]) false) line =
        (o.spans (.every width) line).take k ∧
      o.spans (.fields (List.replicate k width ++ [0]) true) line =
        (o.spans (.every width) line).take k ++
          Span.toEnd (o.row line) ((o.spans (.every width) line).drop k) := by
  have hfields : ∀ widths takeRest, takeRest = false ∨ widths ≠ [] →
      o.slices (.fields (List.replicate k width ++ widths) takeRest) line = _ :=
    fun _ _ h => Layout.fieldSlices_replicate_append (b := o.breaking) hw h k (o.row line)
  have hevery : o.spans (.every width) line =
      Span.ofSlices 0 (Layout.everySlices o.breaking width hw (o.row line)) :=
    congrArg (Span.ofSlices 0) (o.slices_every hw hne)
  refine ⟨?_, ?_, ?_⟩
  · have h := hfields [] false (.inl rfl)
    rw [List.append_nil, Layout.fieldSlices, List.append_nil] at h
    rw [spans, h, hevery, Span.take_ofSlices]
  · have h := hfields [0] false (.inl rfl)
    have hzero : ∀ cells, Layout.fieldSlices o.breaking false [0] cells = [] := fun cells => by
      cases cells <;> rfl
    rw [hzero, List.append_nil] at h
    rw [spans, h, hevery, Span.take_ofSlices]
  · have h := hfields [0] true (.inr (List.cons_ne_nil _ _))
    rw [spans, h, hevery, Span.ofSlices_append, Span.take_ofSlices, Span.drop_ofSlices,
      Nat.zero_add]
    congr 1
    refine Span.toEnd_ofSlices o.breaking (fun s hs => ?_) ?_
    · exact Layout.cells_ne_nil_of_mem_everySlices hw _ s (List.mem_of_mem_drop hs)
    · rw [← List.length_append, ← List.flatMap_append, List.take_append_drop,
        Layout.flatMap_everySlices]

/-- **Fields of one width give what the repeated width gives.**  Where the repeated width gives
fragments, `k` fields of the width give the first `k` of them.  The repeated width gives fragments
unless a tab cannot be filled or a padding cannot be written, and then it gives the first such
fault.  A fault of a tab or of one of the first `k` paddings is also what the fields give; one of a
later padding only is not, and the fields give their fragments all the same.  A last width of zero
changes nothing, or adds one fragment if it takes the rest of the line and there are more than `k`
spans: its cells are those of all the others, and it is not padded. -/
theorem fold_replicate (k : Nat) :
    let row := o.row line
    let spans := o.spans (.every width) line
    let rest := Span.toEnd row (spans.drop k)
    let listed := List.replicate k width
    let repeated := o.choices.fold (.every width) line
    let first := o.choices.fold (.fields listed false) line
    let early? := (o.prepareFault? line).or ((spans.take k).findSome? (Span.fault? o row))
    let late? := (spans.drop k).findSome? (Span.fault? o row)
    (∀ fragments, repeated = .ok fragments →
        fragments = spans.map (Span.text o row) ∧ first = .ok (fragments.take k)) ∧
      (early? = none → late? = none → ∃ fragments, repeated = .ok fragments) ∧
      (∀ fault, early? = some fault → repeated = .error fault ∧ first = .error fault) ∧
      (∀ fault, early? = none → late? = some fault →
        o.padding = true ∧ repeated = .error fault ∧
          first = .ok ((spans.take k).map (Span.text o row))) ∧
      o.choices.fold (.fields (listed ++ [0]) false) line = first ∧
      o.choices.fold (.fields (listed ++ [0]) true) line =
        first.map (· ++ rest.map (Span.text o row)) ∧
      rest.flatMap (Span.cells row) = (spans.drop k).flatMap (Span.cells row) ∧
      (∀ s ∈ rest, s.width = none) ∧
      rest.length = if k < spans.length then 1 else 0 := by
  intro row spans rest listed repeated first early? late?
  obtain ⟨hfields, hzero, hrest⟩ := o.spans_fields_replicate hw hne k
  obtain ⟨start, hconsecutive⟩ := (o.consecutive_spans_every hw line).drop k
  have hevery : (Layout.every width).Ends := Layout.ends_every hw
  have hends : ∀ widths takeRest, (Layout.fields widths takeRest).Ends := Layout.ends_fields
  have hwidth : ∀ s ∈ rest, s.width = none := Span.width_of_mem_toEnd
  -- what goes wrong first, in both
  have hrepeated : o.choices.fault? (.every width) line = early?.or late? := by
    rw [o.choices_fault?_eq_or hevery, Option.or_assoc, ← List.findSome?_append,
      List.take_append_drop]
  have hlisted : o.choices.fault? (.fields listed false) line = early? := by
    rw [o.choices_fault?_eq_or (hends listed false), hfields]
  have hfirst : early? = none → first = .ok ((spans.take k).map (Span.text o row)) := fun he => by
    rw [← hfields]
    exact o.choices_fold_of_none (hends listed false) (hlisted.trans he)
  refine ⟨fun fragments hok => ?_, fun he hl => ⟨_, o.choices_fold_of_none hevery ?_⟩,
    fun fault he => ⟨o.choices_fold_of_some ?_, o.choices_fold_of_some (hlisted.trans he)⟩,
    fun fault he hl => ⟨Span.padding_of_findSome? hl, o.choices_fold_of_some ?_, hfirst he⟩,
    ?_, ?_, Span.flatMap_cells_toEnd hconsecutive, hwidth, Span.length_toEnd row spans k⟩
  · obtain ⟨hnone, rfl⟩ := (o.choices_fold_eq_ok_iff hevery).1 hok
    rw [hfirst (Option.or_eq_none_iff.1 (hrepeated.symm.trans hnone)).1, List.map_take]
    exact ⟨rfl, rfl⟩
  · rw [hrepeated, he, hl, Option.none_or]
  · rw [hrepeated, he, Option.some_or]
  · rw [hrepeated, he, hl, Option.none_or]
  · rw [o.choices_fold_eq_outcome (hends _ _), hzero, ← hfields,
      ← o.choices_fold_eq_outcome (hends _ _)]
  · rw [o.choices_fold_eq_outcome (hends _ _), hrest,
      show first = _ from o.choices_fold_eq_outcome (hends _ _) line, hfields]
    cases o.prepareFault? line with
    | some fault => rfl
    | none => exact Span.outcome_append _ fun s hs => Span.fault?_of_width_eq_none (hwidth s hs)

omit hw hne in
/-- A tab, a colour that is carried on, brackets that move cuts, and padding. -/
theorem fold_replicate_coloured_brackets :
    let o : FoldOptions :=
      { default with
        breaking := ⟨.word, .strict, 2, 2⟩
        padding := true
        expandTabs := true
        tabs := ⟨4, ">", "."⟩ }
    let line := Text.ofString "\x1b[31ma\tb(中),c\x1b[md é"
    let fragments := ["\x1b[31ma>..\x1b[m", "\x1b[31mb\x1b[m  ", "\x1b[31m(中),\x1b[m",
      "\x1b[31mc\x1b[md ", "é  "].map Text.ofString
    (0 : Int) < 3 ∧ o.row line ≠ [] ∧ o.choices.fold (.every 3) line = .ok fragments ∧
      o.choices.fold (.fields [3, 3] false) line = .ok (fragments.take 2) ∧
      o.choices.fold (.fields [3, 3, 0] false) line = .ok (fragments.take 2) ∧
      o.choices.fold (.fields [3, 3, 0] true) line =
        .ok (fragments.take 2 ++ [.ofString "\x1b[31m(中),c\x1b[md é"]) := by
  intro o line fragments
  have hw : (0 : Int) < 3 := by decide
  have hrow : o.row line ≠ [] := by decide +kernel
  have hfault : o.choices.fault? (.every 3) line = none := by decide +kernel
  have hevery : o.choices.fold (.every 3) line = .ok fragments := by
    rw [FoldChoices.fold, hfault]
    exact congrArg Except.ok (by decide +kernel)
  have hrest : (Span.toEnd (o.row line) ((o.spans (.every 3) line).drop 2)).map
      (Span.text o (o.row line)) = [.ofString "\x1b[31m(中),c\x1b[md é"] := by decide +kernel
  obtain ⟨hok, -, -, -, hzero, hall, -⟩ := fold_replicate o hw hrow 2
  have hfirst : o.choices.fold (.fields [3, 3] false) line = .ok (fragments.take 2) :=
    (hok fragments hevery).2
  refine ⟨hw, hrow, hevery, hfirst, hzero.trans hfirst, hall.trans ?_⟩
  rw [hrest]
  exact congrArg (Except.map _) hfirst

omit hw hne in
/-- **Fields of one width where the width cannot be repeated.**  Nobody can count the columns to
which the only fragment is to be padded; but none of its fragments are asked for, or the rest of the
line. -/
theorem fold_replicate_not_ok :
    let o : FoldOptions := { default with padding := true, filler := "" }
    let width : Int := 99999999999999999999
    let line := Text.ofString "abc"
    0 < width ∧ o.row line ≠ [] ∧
      o.choices.fold (.fields (List.replicate 0 width) false) line = .ok [] ∧
      o.choices.fold (.fields (List.replicate 0 width ++ [0]) true) line = .ok [line] ∧
      ¬ ∃ fragments, o.choices.fold (.every width) line = .ok fragments ∧
        o.choices.fold (.fields (List.replicate 0 width) false) line = .ok (fragments.take 0) := by
  intro o width line
  have hfault : o.choices.fault? (.every width) line = some (.repetition .uncountable) := by
    decide +kernel
  have hnone : o.choices.fault? (.fields [] false) line = none := by decide +kernel
  have hnone' : o.choices.fault? (.fields [0] true) line = none := by decide +kernel
  refine ⟨by decide, by decide +kernel, ?_, ?_, ?_⟩
  · show o.choices.fold (.fields [] false) line = .ok []
    rw [FoldChoices.fold, hnone]
    exact congrArg Except.ok (by decide +kernel)
  · show o.choices.fold (.fields [0] true) line = .ok [line]
    rw [FoldChoices.fold, hnone']
    exact congrArg Except.ok (by decide +kernel)
  · rintro ⟨fragments, hok, -⟩
    rw [o.choices_fold_of_some hfault] at hok
    cases hok

end FoldOptions
end ColumnFold
