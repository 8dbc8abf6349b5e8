import ColumnFold.Proofs.Span

/-!
# What the fragments of a line hold

Folding cuts a line at positions between its cells, and a fragment is what stands between two of
them, dressed: the sequences that restore the attributes before it, its cells, the reset after it,
and its padding.  So no cell is lost, doubled, moved or split.  In a line that sets no attributes
nothing is added but padding, and the fragments are pieces of the line.

There is one way not to get the fragments.  A padding is a text that is repeated, and where the
count or the length is out of range folding breaks off; this happens even if the text is empty.

* `FoldOptions.fold_keeps_cells` — the fragments of a line and where they stop.
-/

set_option autoImplicit false

namespace ColumnFold

namespace Span

theorem slack_of_not_padding {o : FoldOptions} (hp : o.padding = false) (line : List Cell)
    (s : Span) : s.slack o line = 0 := by
  rw [slack, hp]
  cases s.width <;> rfl

/-- A fragment without attributes and padding is what the line has at its place. -/
theorem text_eq_spell {o : FoldOptions} {line : List Cell} (hp : o.padding = false)
    (h : ∀ c ∈ line, c.isEscape = true → Rendition.parameters? c.text = none) (s : Span) :
    s.text o line = Cell.spell (s.cells line) := by
  have hclosing : s.closing line = [] := by
    rw [closing, attributesAt_eq_nil h]
    exact if_neg fun hne => hne.2 rfl
  rw [text, opening, attributesAt_eq_nil h, hclosing, slack_of_not_padding hp]
  simp

theorem fault?_of_not_padding {o : FoldOptions} (hp : o.padding = false) (line : List Cell)
    (s : Span) : s.fault? o line = none := by
  rw [fault?, slack_of_not_padding hp]
  rfl

section
variable {o : FoldOptions} {line : List Cell} {spans : List Span}

/-- Nothing but a padding can have a fault. -/
theorem padding_of_findSome? {fault : Fault} (h : spans.findSome? (fault? o line) = some fault) :
    o.padding = true := by
  obtain ⟨s, -, hs⟩ := List.exists_of_findSome?_eq_some h
  cases hp : o.padding with
  | true => rfl
  | false =>
    rw [fault?_of_not_padding hp] at hs
    cases hs

theorem outcome_of_some {fault : Fault} (h : spans.findSome? (fault? o line) = some fault) :
    outcome o line spans = .error fault := by
  rw [outcome, h]

theorem outcome_of_none (h : spans.findSome? (fault? o line) = none) :
    outcome o line spans = .ok (spans.map (text o line)) := by
  rw [outcome, h]

end

theorem outcome_of_not_padding {o : FoldOptions} (hp : o.padding = false) (line : List Cell)
    (spans : List Span) : outcome o line spans = .ok (spans.map (text o line)) :=
  outcome_of_none (List.findSome?_eq_none_iff.2 fun s _ => fault?_of_not_padding hp line s)

/-- The fragments of a line that sets no attributes are what the line has between the ends of the
spans. -/
theorem Consecutive.flatten_text {o : FoldOptions} {line : List Cell} {spans : List Span}
    {m : Nat} (hc : Consecutive 0 m spans) (hm : m ≤ line.length) (hp : o.padding = false)
    (h : ∀ c ∈ line, c.isEscape = true → Rendition.parameters? c.text = none) :
    (spans.map (text o line)).flatten = Cell.spell (line.take m) := by
  have htext : spans.map (text o line) = spans.map fun s => Cell.spell (s.cells line) :=
    List.map_congr_left fun s _ => text_eq_spell hp h s
  have hspell : (spans.map fun s => Cell.spell (s.cells line)).flatten =
      Cell.spell (spans.flatMap (cells line)) := by
    rw [Cell.spell, List.flatMap_assoc, List.flatMap_def]
    rfl
  rw [htext, hspell, hc.flatMap_cells hm, List.drop_zero]

end Span

namespace FoldOptions

variable (o : FoldOptions)

/-- The spans of a repeated width reach from the beginning of a line to its end. -/
theorem consecutive_spans_every {width : Int} (hw : 0 < width) (line : Text) :
    Span.Consecutive 0 (o.row line).length (o.spans (.every width) line) := by
  have h := (Layout.division_every o.breaking hw (o.row line)).consecutive 0
  rwa [List.length_nil, Nat.sub_zero, Nat.zero_add] at h

theorem slices_every_of_eq_nil {width : Int} (hw : 0 < width) {line : Text}
    (hnil : o.row line = []) : o.slices (.every width) line = [⟨[], none, false⟩] := by
  rw [slices, Layout.slices, dif_pos hw]
  exact if_pos (List.isEmpty_iff.2 hnil)

theorem slices_every {width : Int} (hw : 0 < width) {line : Text} (hne : o.row line ≠ []) :
    o.slices (.every width) line = Layout.everySlices o.breaking width hw (o.row line) := by
  rw [slices, Layout.slices, dif_pos hw]
  exact if_neg fun h => hne (List.isEmpty_iff.1 h)

/-- The spans of a repeated width on a line with cells are not empty. -/
theorem width_of_mem_spans_every {width : Int} (hw : 0 < width) {line : Text}
    (hne : o.row line ≠ []) :
    ∀ s ∈ o.spans (.every width) line, s.start < s.stop ∧ s.width = some width := by
  intro s hs
  have hwidth : s.width = some width := by
    have hmem : s.width ∈ (o.slices (.every width) line).map Slice.width := by
      rw [← Span.map_width_ofSlices 0]
      exact List.mem_map_of_mem hs
    obtain ⟨slice, hslice, heq⟩ := List.mem_map.1 hmem
    rw [o.slices_every hw hne] at hslice
    rw [← heq, Layout.width_everySlices o.breaking width hw _ slice hslice]
  have hplaced := o.placed_of_mem_spans (Layout.ends_every hw) line s hs
  exact ⟨hplaced.start_lt_stop hwidth hw, hwidth⟩

theorem spans_fields (takeRest : Bool) (widths : List Int) (line : Text) :
    ∃ stop, Span.Consecutive 0 stop (o.spans (.fields widths takeRest) line) ∧
      stop ≤ (o.row line).length ∧
      (o.spans (.fields widths takeRest) line).map Span.width <+:
        Layout.fieldWidths takeRest widths ∧
      (stop = (o.row line).length ∨
        (o.spans (.fields widths takeRest) line).length = widths.length ∨
        takeRest = false ∧
          (o.spans (.fields widths takeRest) line).length + 1 = widths.length ∧
          widths.getLast? = some 0) ∧
      (takeRest = true → widths ≠ [] → stop = (o.row line).length) := by
  obtain ⟨left, hd, hwidths, hstop, hrest⟩ :=
    Layout.division_fieldSlices o.breaking takeRest widths (o.row line)
  have hlen : ∀ h : left = [], 0 + ((o.row line).length - left.length) = (o.row line).length := by
    rintro rfl
    rw [List.length_nil, Nat.sub_zero, Nat.zero_add]
  refine ⟨_, hd.consecutive 0, by omega, ?_, ?_, fun ht hne => hlen (hrest ht hne)⟩
  · rw [spans, Span.map_width_ofSlices]
    exact hwidths
  · rw [spans, Span.length_ofSlices]
    rcases hstop with h | h | h
    · exact .inl (hlen h)
    · exact .inr (.inl h)
    · exact .inr (.inr h)

/-- Where tabs are left alone, the first padding that cannot be written decides what folding
gives. -/
theorem choices_fold_by_padding (he : o.expandTabs = false) {layout : Layout} (h : layout.Ends)
    (line : Text) :
    let spans := o.spans layout line
    let fault? := spans.findSome? (Span.fault? o (o.cells line))
    (∀ fault, fault? = some fault →
      o.padding = true ∧ o.choices.fold layout line = .error fault) ∧
    (fault? = none →
      o.choices.fold layout line = .ok (spans.map (Span.text o (o.cells line)))) := by
  rw [o.choices_fold he h, row_eq_cells he]
  exact ⟨fun fault hsome => ⟨Span.padding_of_findSome? hsome, Span.outcome_of_some hsome⟩,
    Span.outcome_of_none⟩

/-- Without padding, a line that sets no attributes is folded into pieces of itself. -/
theorem fold_eq_ok_pieces {o : FoldOptions} (he : o.expandTabs = false) (hp : o.padding = false)
    {line : Text}
    (hno : ∀ c ∈ o.cells line, c.isEscape = true → Rendition.parameters? c.text = none)
    {layout : Layout} (h : layout.Ends) {m : Nat}
    (hc : Span.Consecutive 0 m (o.spans layout line)) (hm : m ≤ (o.cells line).length) :
    ∃ fragments, o.choices.fold layout line = .ok fragments ∧
      fragments.flatten = Cell.spell ((o.cells line).take m) := by
  refine ⟨_, ?_, hc.flatten_text hm hp hno⟩
  rw [o.choices_fold he h, Span.outcome_of_not_padding hp, row_eq_cells he]

/-- **Folding keeps the cells of a line.**  A repeated width cuts a line with cells into consecutive
spans that are not empty and reach from its beginning to its end.  Fields are consecutive spans from
the beginning on, cut for the widths in turn; they stop only where the line or the widths are used
up, or at a last width of zero that does not take the rest, and a field without a width is the rest
of the line.  Folding gives the fragments of the spans, or the fault of the first padding that
cannot be written.  So a line that sets no attributes is the fragments joined again. -/
theorem fold_keeps_cells (he : o.expandTabs = false) (line : Text) :
    (∀ width : Int, 0 < width → o.cells line ≠ [] →
      ∃ spans, Span.Consecutive 0 (o.cells line).length spans ∧
        (∀ s ∈ spans, s.start < s.stop ∧ s.width = some width) ∧
        o.choices.fold (.every width) line = Span.outcome o (o.cells line) spans) ∧
    (∀ (widths : List Int) (takeRest : Bool),
      ∃ spans stop, Span.Consecutive 0 stop spans ∧ stop ≤ (o.cells line).length ∧
        spans.map Span.width <+: Layout.fieldWidths takeRest widths ∧
        (∀ s ∈ spans, s.width = none → s.stop = (o.cells line).length) ∧
        (stop = (o.cells line).length ∨ spans.length = widths.length ∨
          takeRest = false ∧ spans.length + 1 = widths.length ∧ widths.getLast? = some 0) ∧
        o.choices.fold (.fields widths takeRest) line = Span.outcome o (o.cells line) spans) ∧
    (o.padding = false →
      (∀ c ∈ o.cells line, c.isEscape = true → Rendition.parameters? c.text = none) →
      (∀ width : Int, 0 < width →
        ∃ fragments, o.choices.fold (.every width) line = .ok fragments ∧
          fragments.flatten = line) ∧
      ∀ (widths : List Int) (takeRest : Bool),
        ∃ fragments, o.choices.fold (.fields widths takeRest) line = .ok fragments ∧
          fragments.flatten <+: line ∧
          (takeRest = true → widths ≠ [] → fragments.flatten = line)) := by
  have hrow := row_eq_cells he line
  have hline : Cell.spell (o.cells line) = line := Cell.spell_ofText o.ambiguity line
  refine ⟨fun width hw hne => ?_, fun widths takeRest => ?_,
    fun hp hno => ⟨fun width hw => ?_, fun widths takeRest => ?_⟩⟩
  · rw [← hrow] at hne ⊢
    exact ⟨_, o.consecutive_spans_every hw line, o.width_of_mem_spans_every hw hne,
      o.choices_fold he (Layout.ends_every hw) line⟩
  · obtain ⟨stop, hc, hle, hwidths, hstop, -⟩ := o.spans_fields takeRest widths line
    have hends := Layout.ends_fields widths takeRest
    rw [← hrow]
    exact ⟨_, stop, hc, hle, hwidths, fun s hs => (o.placed_of_mem_spans hends line s hs).stop_eq,
      hstop, o.choices_fold he hends line⟩
  · have hc := o.consecutive_spans_every hw line
    rw [hrow] at hc
    obtain ⟨fragments, hok, hflat⟩ :=
      fold_eq_ok_pieces he hp hno (Layout.ends_every hw) hc (Nat.le_refl _)
    refine ⟨fragments, hok, ?_⟩
    rw [hflat, List.take_length, hline]
  · obtain ⟨stop, hc, hle, -, -, hrest⟩ := o.spans_fields takeRest widths line
    rw [hrow] at hle hrest
    obtain ⟨fragments, hok, hflat⟩ :=
      fold_eq_ok_pieces he hp hno (Layout.ends_fields widths takeRest) hc hle
    refine ⟨fragments, hok, ?_, fun ht hne => ?_⟩
    · refine ⟨Cell.spell ((o.cells line).drop stop), ?_⟩
      rw [hflat, ← Cell.spell_append, List.take_append_drop, hline]
    · rw [hflat, hrest ht hne, List.take_length, hline]

theorem fold_keeps_cells_red_word :
    let o : FoldOptions := { default with breaking := ⟨.word, .strict, 2, 2⟩, padding := true }
    let red := Text.ofString "\x1b[31mab\x1b[0m (cd"
    let plain := Text.ofString "a\x1b(Bbcd"
    ((0 : Int) < 3 ∧ o.cells red ≠ [] ∧
      ∃ spans, Span.Consecutive 0 (o.cells red).length spans ∧
        (∀ s ∈ spans, s.start < s.stop ∧ s.width = some 3) ∧
        o.choices.fold (.every 3) red = Span.outcome o (o.cells red) spans) ∧
    (∀ c ∈ default.cells plain, c.isEscape = true → Rendition.parameters? c.text = none) ∧
      (∃ fragments, default.choices.fold (.every 2) plain = .ok fragments ∧
        fragments.flatten = plain) ∧
      ∃ fragments, default.choices.fold (.fields [1, 0, 2] true) plain = .ok fragments ∧
        fragments.flatten = plain := by
  intro o red plain
  have hred : o.cells red ≠ [] := by decide +kernel
  have hplain : ∀ c ∈ default.cells plain, c.isEscape = true →
      Rendition.parameters? c.text = none := by decide +kernel
  have hpieces := (fold_keeps_cells default rfl plain).2.2 rfl hplain
  obtain ⟨fragments, hok, -, hflat⟩ := hpieces.2 [1, 0, 2] true
  exact ⟨⟨by decide, hred, (fold_keeps_cells o rfl red).1 3 (by decide) hred⟩, hplain,
    hpieces.1 2 (by decide), fragments, hok, hflat rfl (by decide)⟩

/-- **A padding that nobody can count.**  Padding to a width beyond all limits breaks folding off,
even where every column is padded with nothing. -/
theorem fold_eq_error_of_empty_filler :
    let o : FoldOptions := { default with padding := true, filler := "" }
    o.expandTabs = false ∧ o.cells (.ofString "abc") ≠ [] ∧
      o.choices.fold (.every 99999999999999999999) (.ofString "abc") =
        .error (.repetition .uncountable) ∧
      ¬ ∃ fragments,
        o.choices.fold (.every 99999999999999999999) (.ofString "abc") = .ok fragments := by
  intro o
  have herr : o.choices.fold (.every 99999999999999999999) (.ofString "abc") =
      .error (.repetition .uncountable) :=
    o.choices_fold_of_some (by decide +kernel)
  refine ⟨rfl, by decide +kernel, herr, ?_⟩
  rintro ⟨fragments, hok⟩
  rw [herr] at hok
  cases hok

end FoldOptions
end ColumnFold
