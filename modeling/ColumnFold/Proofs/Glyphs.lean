import ColumnFold.Proofs.Cutting
import ColumnFold.Proofs.Span

/-!
# Fields without a glyph

A field of positive width should hold a glyph, so that no fragment is made of escape sequences only.
Punctuation breaks this in two ways, and only in these:

* a cut that is moved back over opening punctuation stops after the first cell, but the first cell
  may be an escape sequence (`Breaking.Strips`);
* a cut that is moved forward over closing punctuation stops right after it, and what is left of the
  line may be escape sequences, which fill the next field (`Breaking.Strands`).

`Breaking.strips_iff` and `Breaking.strands_iff` say so for one cut, and
`FoldOptions.fields_hold_glyph_iff` for a whole line.
-/

set_option autoImplicit false

namespace ColumnFold

open Cell

namespace Breaking

variable (b : Breaking) {width : Int} {cells : List Cell}

/-- Whether a cut gives up all its glyphs: they are opening punctuation after an escape sequence,
and no closing punctuation that could be taken in comes next. -/
structure Strips (width : Int) (cells : List Cell) : Prop where
  /-- Punctuation moves cuts. -/
  strict : b.kinsoku = .strict
  /-- The line does not fit. -/
  overflows : Overflows width cells
  /-- The next glyph is not taken in. -/
  next : ∀ c, (b.plain width cells).rest.find? (!·.isEscape) = some c →
    ¬(c.isClosing = true ∧ (c.width : Int) ≤ b.runIn)
  /-- The first cell is an escape sequence. -/
  head : ∃ c ∈ (b.plain width cells).taken.head?, c.isEscape = true
  /-- The glyphs are opening punctuation. -/
  opening : ∀ c ∈ (b.plain width cells).taken, c.isEscape = true ∨ c.isOpening = true
  /-- All of them may be given up. -/
  columns_le : (columns (b.plain width cells).taken : Int) ≤ b.runOut

/-- Whether a cut leaves escape sequences and no glyph: all the glyphs that come next are closing
punctuation that is taken in, and an escape sequence ends the line. -/
structure Strands (width : Int) (cells : List Cell) : Prop where
  /-- Punctuation moves cuts. -/
  strict : b.kinsoku = .strict
  /-- The line does not fit. -/
  overflows : Overflows width cells
  /-- The glyphs that come next are closing punctuation. -/
  closing : ∀ c ∈ (b.plain width cells).rest, c.isEscape = true ∨ c.isClosing = true
  /-- All of them may be taken in. -/
  columns_le : (columns (b.plain width cells).rest : Int) ≤ b.runIn
  /-- The last cell is an escape sequence. -/
  last : ∃ c ∈ (b.plain width cells).rest.getLast?, c.isEscape = true

end Breaking

/-! ## One cut -/

namespace Split

/-- A cut forced past the first glyph that has columns takes that glyph. -/
theorem exists_glyph_force {s : Split} {c : Cell} {rest : List Cell} (hs : s.rest = c :: rest)
    (hc : 0 < c.width) : ∃ d ∈ s.force.taken, d.isEscape = false := by
  rw [force, hs]
  exact ⟨c, by simp, isEscape_eq_false_of_width hc⟩

theorem exists_glyph_force_rest {s : Split} (hs : s.rest ≠ []) (h : s.force.rest ≠ []) :
    ∃ d ∈ s.force.rest, d.isEscape = false := by
  obtain ⟨c, rest, hc⟩ := List.exists_cons_of_ne_nil hs
  have hrest : s.force.rest = rest.dropWhile (·.width == 0) := by rw [force, hc]
  rw [hrest] at h ⊢
  obtain ⟨d, left, hd⟩ := List.exists_cons_of_ne_nil h
  have hwidth := List.head?_dropWhile_not (·.width == 0) rest
  rw [hd] at hwidth
  refine ⟨d, by rw [hd]; exact List.mem_cons_self, isEscape_eq_false_of_width ?_⟩
  simpa [Nat.pos_iff_ne_zero] using hwidth

/-- A cut that moves back leaves what it left before. -/
theorem mem_runOut_rest {s : Split} {budget : Int} {c : Cell} (h : c ∈ s.rest) :
    c ∈ (s.runOut budget).rest := by
  rw [runOut.eq_def]
  split
  · exact h
  · exact List.mem_append_right _ h

/-- **When going back over punctuation takes all the glyphs away.** -/
theorem forall_isEscape_runOut_iff {s : Split} {budget : Int}
    (hs : ∃ c ∈ s.taken, c.isEscape = false) :
    (∀ c ∈ (s.runOut budget).taken, c.isEscape = true) ↔
      (∃ c ∈ s.taken.head?, c.isEscape = true) ∧
        (∀ c ∈ s.taken, c.isEscape = true ∨ c.isOpening = true) ∧
        (columns s.taken : Int) ≤ budget := by
  obtain ⟨c, cells, hc⟩ := List.exists_cons_of_ne_nil (List.ne_nil_of_mem hs.choose_spec.1)
  have hall := all_slide isOpening budget cells.reverse
  have htaken : (s.runOut budget).taken =
      c :: (slide isOpening budget cells.reverse).rest.reverse := by rw [runOut, hc]
  rw [htaken, hc]
  constructor
  · intro h
    have hrest : ∀ d ∈ (slide isOpening budget cells.reverse).rest, d.isEscape = true := fun d hd =>
      h d (List.mem_cons_of_mem c (List.mem_reverse.2 hd))
    have he := h c List.mem_cons_self
    have hne : (slide isOpening budget cells.reverse).taken ≠ [] := by
      intro hnil
      rw [all, hnil, List.nil_append] at hall
      rw [hall] at hrest
      refine not_forall_isEscape hs fun d hd => ?_
      rw [hc] at hd
      rcases List.mem_cons.1 hd with rfl | hd
      · exact he
      · exact hrest d (List.mem_reverse.2 hd)
    have hcols := congrArg columns hall
    rw [all, columns_append, columns_reverse, columns_eq_zero_of_isEscape hrest] at hcols
    have hle := columns_slide_le hne
    refine ⟨⟨c, rfl, he⟩, fun d hd => ?_, ?_⟩
    · rcases List.mem_cons.1 hd with rfl | hd
      · exact .inl he
      · rw [← List.mem_reverse, ← hall, all] at hd
        rcases List.mem_append.1 hd with hd | hd
        · exact isEscape_or_of_mem_slide d hd
        · exact .inl (hrest d hd)
    · rw [columns_cons, width_of_isEscape he]
      omega
  · rintro ⟨⟨_, ⟨rfl⟩, he⟩, hopening, hcols⟩ d hd
    rw [columns_cons, width_of_isEscape he, Nat.zero_add, ← columns_reverse] at hcols
    rcases List.mem_cons.1 hd with rfl | hd
    · exact he
    · refine isEscape_of_mem_slide_rest (fun d hd => ?_) hcols d (List.mem_reverse.1 hd)
      exact hopening d (List.mem_cons_of_mem c (List.mem_reverse.1 hd))

/-- **When going forward over punctuation leaves escape sequences only.** -/
theorem forall_isEscape_runIn_iff {s : Split} {budget : Int}
    (hne : (slide isClosing budget s.rest).taken ≠ []) :
    ((s.runIn budget).rest ≠ [] ∧ ∀ c ∈ (s.runIn budget).rest, c.isEscape = true) ↔
      (∀ c ∈ s.rest, c.isEscape = true ∨ c.isClosing = true) ∧
        (columns s.rest : Int) ≤ budget ∧ ∃ c ∈ s.rest.getLast?, c.isEscape = true := by
  have hall := all_slide isClosing budget s.rest
  show (slide isClosing budget s.rest).rest ≠ [] ∧
    (∀ c ∈ (slide isClosing budget s.rest).rest, c.isEscape = true) ↔ _
  constructor
  · rintro ⟨hrest, hescape⟩
    have hle := columns_slide_le hne
    have hcols := congrArg columns hall
    rw [all, columns_append, columns_eq_zero_of_isEscape hescape] at hcols
    refine ⟨fun c hc => ?_, by omega, ?_⟩
    · rw [← hall, all] at hc
      rcases List.mem_append.1 hc with hc | hc
      · exact isEscape_or_of_mem_slide c hc
      · exact .inl (hescape c hc)
    · have hlast := congrArg List.getLast? hall
      rw [all, List.getLast?_append, List.getLast?_eq_some_getLast hrest, Option.some_or] at hlast
      rw [← hlast]
      exact ⟨_, rfl, hescape _ (List.getLast_mem hrest)⟩
  · rintro ⟨hclosing, hcols, last, hlast, he⟩
    refine ⟨fun hnil => ?_, isEscape_of_mem_slide_rest hclosing hcols⟩
    have htaken : (slide isClosing budget s.rest).taken = s.rest := by
      rwa [all, hnil, List.append_nil] at hall
    rw [← htaken] at hlast
    rw [isEscape_getLast?_slide last hlast] at he
    cases he

end Split

namespace Breaking

variable (b : Breaking) {width : Int} {cells : List Cell}

/-- **A cut for a positive width takes escape sequences only if it strips them of their glyphs.** -/
theorem strips_iff (hw : 0 < width) (hc : ∃ c ∈ cells, c.isEscape = false) :
    (∀ c ∈ (b.cut width cells).taken, c.isEscape = true) ↔ b.Strips width cells := by
  obtain ⟨hrest, hcut⟩ | ⟨hrest, hzero, hcut⟩ | ⟨hover, hcut⟩ := b.cut_cases hw cells
  · have hall := Split.all_fit width cells
    rw [Split.all, hrest, List.append_nil] at hall
    rw [hcut, hall]
    exact iff_of_false (not_forall_isEscape hc) fun h => h.overflows.1 hrest
  · obtain ⟨c, rest, hs⟩ := List.exists_cons_of_ne_nil hrest
    have hforce := Split.exists_glyph_force hs (Split.width_pos_of_fit_rest (Int.le_of_lt hw) hs)
    rw [hcut]
    exact iff_of_false (not_forall_isEscape hforce) fun h => h.overflows.2 hzero
  · have hplain := b.exists_glyph_plain hover
    have hkeeps : (∀ c ∈ (b.plain width cells).taken, c ∈ (b.cut width cells).taken) →
        ¬ ∀ c ∈ (b.cut width cells).taken, c.isEscape = true := fun hsub h =>
      not_forall_isEscape hplain fun c hc => h c (hsub c hc)
    cases hk : b.kinsoku with
    | free =>
      refine iff_of_false (hkeeps fun c hmem => ?_) fun h => ?_
      · rwa [hcut, atPunctuation, hk]
      · rw [h.strict] at hk
        cases hk
    | strict =>
      obtain ⟨c, rest, hs, hpos⟩ := b.plain_rest hw hover
      obtain ⟨hnil, hp⟩ | ⟨hne, hp⟩ := b.atPunctuation_cases hk hs hpos
      · rw [hcut, hp, Split.forall_isEscape_runOut_iff hplain]
        have hnext := Split.slide_taken_eq_nil_iff.1 hnil
        refine ⟨fun h => ?_, fun h => ⟨h.head, h.opening, h.columns_le⟩⟩
        obtain ⟨hhead, hopening, hle⟩ := h
        exact ⟨hk, hover, hnext, hhead, hopening, hle⟩
      · refine iff_of_false (hkeeps fun d hd => ?_) fun h => ?_
        · rw [hcut, hp]
          exact List.mem_append_left _ hd
        · exact hne (Split.slide_taken_eq_nil_iff.2 h.next)

/-- **A cut for a positive width leaves escape sequences only if it strands them.** -/
theorem strands_iff (hw : 0 < width) (cells : List Cell) :
    ((b.cut width cells).rest ≠ [] ∧ ∀ c ∈ (b.cut width cells).rest, c.isEscape = true) ↔
      b.Strands width cells := by
  obtain ⟨hrest, hcut⟩ | ⟨hrest, hzero, hcut⟩ | ⟨hover, hcut⟩ := b.cut_cases hw cells
  · refine iff_of_false (fun h => h.1 ?_) fun h => h.overflows.1 hrest
    rw [hcut, hrest]
  · refine iff_of_false (fun h => ?_) fun h => h.overflows.2 hzero
    rw [hcut] at h
    exact not_forall_isEscape (Split.exists_glyph_force_rest hrest h.1) h.2
  · obtain ⟨c, rest, hs, hpos⟩ := b.plain_rest hw hover
    -- the glyph after the plain cut stays where it is unless it is taken in
    have hkeeps : c ∈ (b.cut width cells).rest →
        ¬((b.cut width cells).rest ≠ [] ∧ ∀ c ∈ (b.cut width cells).rest, c.isEscape = true) :=
      fun hmem h => not_forall_isEscape ⟨c, hmem, isEscape_eq_false_of_width hpos⟩ h.2
    have hmem : c ∈ (b.plain width cells).rest := hs ▸ List.mem_cons_self
    cases hk : b.kinsoku with
    | free =>
      refine iff_of_false (hkeeps ?_) fun h => ?_
      · rwa [hcut, atPunctuation, hk]
      · rw [h.strict] at hk
        cases hk
    | strict =>
      obtain ⟨hnil, hp⟩ | ⟨hne, hp⟩ := b.atPunctuation_cases hk hs hpos
      · refine iff_of_false (hkeeps ?_) fun h => ?_
        · rw [hcut, hp]
          exact Split.mem_runOut_rest hmem
        · have hall := Split.all_slide isClosing b.runIn (b.plain width cells).rest
          rw [Split.all, hnil, List.nil_append] at hall
          have hescape := Split.isEscape_of_mem_slide_rest h.closing h.columns_le
          rw [hall] at hescape
          exact not_forall_isEscape ⟨c, hmem, isEscape_eq_false_of_width hpos⟩ hescape
      · rw [hcut, hp, Split.forall_isEscape_runIn_iff hne]
        refine ⟨fun h => ?_, fun h => ⟨h.closing, h.columns_le, h.last⟩⟩
        obtain ⟨hclosing, hle, hlast⟩ := h
        exact ⟨hk, hover, hclosing, hle, hlast⟩

end Breaking

/-! ## A whole line -/

namespace FoldOptions

/-- If the glyphs of a line run out before a field, the cut of an earlier field strands the escape
sequences. -/
theorem exists_strands (o : FoldOptions) {layout : Layout} (h : layout.Ends) {line : Text}
    (hline : ∃ c ∈ o.row line, c.isEscape = false) {s : Span} (hs : s ∈ o.spans layout line)
    (hlt : s.start < (o.row line).length)
    (hafter : ¬∃ c ∈ (o.row line).drop s.start, c.isEscape = false) :
    ∃ t ∈ o.spans layout line, t.stop ≤ s.start ∧ ∃ width, t.width = some width ∧ 0 < width ∧
      o.breaking.Strands width ((o.row line).drop t.start) := by
  obtain ⟨left, hd⟩ := layout.division_slices o.breaking h (o.row line)
  -- the field across which the last glyph is taken
  obtain ⟨t, ht, hle, hbefore, hnone⟩ := (hd.consecutive 0).exists_across
    (P := fun n => ∃ c ∈ (o.row line).drop n, c.isEscape = false) hline s hs hafter
  have ht' := o.placed_of_mem_spans h line t ht
  cases hwidth : t.width with
  | none =>
    have hstop := ht'.stop_eq hwidth
    omega
  | some width =>
    have hrest := ht'.drop_stop hwidth
    by_cases hw : 0 < width
    · refine ⟨t, ht, hle, width, hwidth, hw, (o.breaking.strands_iff hw _).1 ?_⟩
      rw [← hrest, Ne, List.drop_eq_nil_iff]
      exact ⟨by omega, by simpa using hnone⟩
    · rw [Breaking.cut, if_pos (Int.not_lt.1 hw)] at hrest
      rw [hrest] at hnone
      exact absurd hbefore hnone

/-- **When every field of positive width holds a glyph**: when no cut strips one, and no cut strands
escape sequences for another. -/
theorem fields_hold_glyph_iff (o : FoldOptions) {layout : Layout} (h : layout.Ends) (line : Text)
    (hline : ∃ c ∈ o.row line, c.isEscape = false) :
    o.fold layout line = (o.spans layout line).map (Span.text o (o.row line)) ∧
      ((∀ s ∈ o.spans layout line, ∀ width, s.width = some width → 0 < width →
          ∃ c ∈ s.cells (o.row line), c.isEscape = false) ↔
        ∀ s ∈ o.spans layout line, ∀ width, s.width = some width → 0 < width →
          ¬o.breaking.Strips width ((o.row line).drop s.start) ∧
            (o.breaking.Strands width ((o.row line).drop s.start) →
              ∀ t ∈ o.spans layout line, s.stop ≤ t.start →
                ∀ width', t.width = some width' → width' ≤ 0)) := by
  refine ⟨o.fold_eq_map_text h line, ?_⟩
  have hplaced := o.placed_of_mem_spans h line
  constructor
  · intro hglyphs s hs width hwidth hw
    have hs' := hplaced s hs
    obtain ⟨c, hc, hglyph⟩ := hglyphs s hs width hwidth hw
    refine ⟨fun hstrips => ?_, fun hstrands t ht hle width' hwidth' => ?_⟩
    · have hdrop := Span.mem_drop_of_mem_cells hc (Nat.le_refl _)
      rw [hs'.cells_eq width hwidth] at hc
      exact not_forall_isEscape ⟨c, hc, hglyph⟩
        ((o.breaking.strips_iff hw ⟨c, hdrop, hglyph⟩).2 hstrips)
    · obtain ⟨-, hescape⟩ := (o.breaking.strands_iff hw _).2 hstrands
      rw [← hs'.drop_stop hwidth] at hescape
      refine Int.not_lt.1 fun hw' => ?_
      obtain ⟨d, hd, hglyph'⟩ := hglyphs t ht width' hwidth' hw'
      exact not_forall_isEscape ⟨d, Span.mem_drop_of_mem_cells hd hle, hglyph'⟩ hescape
  · intro hcuts s hs width hwidth hw
    have hs' := hplaced s hs
    by_cases hafter : ∃ c ∈ (o.row line).drop s.start, c.isEscape = false
    · have hstrips := mt (o.breaking.strips_iff hw hafter).1 (hcuts s hs width hwidth hw).1
      rw [hs'.cells_eq width hwidth]
      simpa using hstrips
    · obtain ⟨t, ht, hle, width', hwidth', hw', hstrands⟩ :=
        o.exists_strands h hline hs (hs'.start_lt width hwidth) hafter
      have hzero := (hcuts t ht width' hwidth' hw').2 hstrands s hs hle width hwidth
      omega

theorem fields_hold_glyph_iff_coloured_bracket :
    let o : FoldOptions := { default with breaking := ⟨.word, .strict, 2, 2⟩ }
    let line := Text.ofString "\x1b[31ma(中)\x1b[m"
    let layout := Layout.fields [2, 0, 3] true
    let row := o.row line
    layout.Ends ∧ (∃ c ∈ row, c.isEscape = false) ∧
      o.fold layout line = (o.spans layout line).map (Span.text o row) ∧
      ((∀ s ∈ o.spans layout line, ∀ width, s.width = some width → 0 < width →
          ∃ c ∈ s.cells row, c.isEscape = false) ↔
        ∀ s ∈ o.spans layout line, ∀ width, s.width = some width → 0 < width →
          ¬o.breaking.Strips width (row.drop s.start) ∧
            (o.breaking.Strands width (row.drop s.start) →
              ∀ t ∈ o.spans layout line, s.stop ≤ t.start →
                ∀ width', t.width = some width' → width' ≤ 0)) := by
  intro o line layout row
  have h : layout.Ends := Layout.ends_fields _ _
  have hline : ∃ c ∈ row, c.isEscape = false := by decide +kernel
  exact ⟨h, hline, fields_hold_glyph_iff o h line hline⟩

/-- **Fields without a glyph.**  The first field of one line is a sequence whose bracket was given
up; the last field of the other is a sequence that was left over. -/
theorem fold_fields_without_glyph :
    let o : FoldOptions := { default with breaking := ⟨.anywhere, .strict, 2, 2⟩ }
    let bracket := Text.ofString "\x1b[31m(中"
    let comma := Text.ofString "ab,\x1b[31m"
    (o.fold (.every 2) bracket =
        [.ofString "\x1b[31m\x1b[m", .ofString "\x1b[31m(\x1b[m", .ofString "\x1b[31m中"] ∧
      (∃ c ∈ o.row bracket, c.isEscape = false) ∧
      ∃ s ∈ o.spans (.every 2) bracket, s.width = some 2 ∧
        ∀ c ∈ s.cells (o.row bracket), c.isEscape = true) ∧
    o.fold (.every 2) comma = [.ofString "ab,", .ofString "\x1b[31m"] ∧
      (∃ c ∈ o.row comma, c.isEscape = false) ∧
      ∃ s ∈ o.spans (.every 2) comma, s.width = some 2 ∧
        ∀ c ∈ s.cells (o.row comma), c.isEscape = true := by
  intro o bracket comma
  have hbracket : o.spans (.every 2) bracket =
      [⟨0, 1, some 2, by decide⟩, ⟨1, 2, some 2, by decide⟩, ⟨2, 3, some 2, by decide⟩] := by
    decide +kernel
  have hcomma : o.spans (.every 2) comma =
      [⟨0, 3, some 2, by decide⟩, ⟨3, 4, some 2, by decide⟩] := by decide +kernel
  refine ⟨⟨by decide +kernel, by decide +kernel, ?_⟩, by decide +kernel, by decide +kernel, ?_⟩
  · rw [hbracket]
    exact ⟨_, List.mem_cons_self, rfl, by decide +kernel⟩
  · rw [hcomma]
    exact ⟨_, List.mem_cons_of_mem _ List.mem_cons_self, rfl, by decide +kernel⟩

end FoldOptions
end ColumnFold
