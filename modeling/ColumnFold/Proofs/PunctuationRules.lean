import ColumnFold.Proofs.Cutting

/-!
# Where punctuation moves a cut

Under the strict rules two scans start from the plain cut: one forward over closing punctuation,
and, if that took nothing in, one back over opening punctuation.  Each passes escape sequences,
stops at the first glyph that is of another kind or does not fit its limit, and moves the cut up to
a glyph.  What moved the cut therefore ends it on the far side as well: after closing punctuation
has been taken in, the last glyph before the cut is closing, and after opening punctuation has been
given up, the first glyph after the cut is opening.  As no character is both, one scan never breaks
the rule of the other.

* `Breaking.Shift` — the ways in which punctuation may move a cut.
* `Breaking.Settled` — the rules are kept as far as the limits allow.
* `Breaking.shift_atPunctuation` — both hold of every cut that punctuation may move.
* `Breaking.cut_shift` — the strict rules for lines.
-/

set_option autoImplicit false

namespace ColumnFold

open Cell

namespace Cell

variable {c : Cell} {cells before after escapes : List Cell}

/-! ## The glyphs next to a cut -/

theorem isEscape_of_headIs {p : Char → Bool} (h : c.headIs p = true) : c.isEscape = false := by
  rcases c with _ | _
  · rfl
  · cases h

theorem isClosing_of_isOpening (h : c.isOpening = true) : c.isClosing = false := by
  rcases c with ⟨ch | _, tail, width⟩ | body
  · refine Bool.eq_false_iff.2 fun hclosing => ?_
    exact Punctuation.notMem_closing_of_mem_opening (List.contains_iff_mem.1 h)
      (List.contains_iff_mem.1 hclosing)
  · cases h
  · cases h

theorem eq_of_concat_eq {last : Cell} (h : cells ++ [last] = before ++ c :: escapes)
    (hlast : last.isEscape = false) (hescapes : ∀ e ∈ escapes, e.isEscape = true) : c = last := by
  rcases List.eq_nil_or_concat escapes with rfl | ⟨escapes, e, rfl⟩
  · exact (List.cons.inj (List.append_inj_right' h rfl)).1.symm
  · rw [List.concat_eq_append, ← List.cons_append, ← List.append_assoc] at h
    obtain ⟨rfl⟩ := (List.cons.inj (List.append_inj_right' h rfl)).1
    rw [hescapes last (by simp)] at hlast
    cases hlast

theorem eq_of_cons_eq {first : Cell} (h : first :: cells = escapes ++ c :: after)
    (hfirst : first.isEscape = false) (hescapes : ∀ e ∈ escapes, e.isEscape = true) :
    c = first := by
  rcases escapes with _ | ⟨e, escapes⟩
  · exact (List.cons.inj h).1.symm
  · obtain ⟨rfl⟩ := (List.cons.inj h).1
    rw [hescapes first List.mem_cons_self] at hfirst
    cases hfirst

end Cell

namespace Split

variable {p : Cell → Bool} {budget : Int} {cells : List Cell}

/-- A cut that slides at all slides up to a glyph of the right kind, over such glyphs and escape
sequences, within the budget. -/
theorem slide_taken_cases :
    (slide p budget cells).taken = [] ∨
      ∃ moved last, (slide p budget cells).taken = moved ++ [last] ∧
        (∀ c ∈ moved, c.isEscape = true ∨ p c = true) ∧ last.isEscape = false ∧ p last = true ∧
        (columns (moved ++ [last]) : Int) ≤ budget := by
  have hkind : ∀ c ∈ (slide p budget cells).taken, c.isEscape = true ∨ p c = true :=
    isEscape_or_of_mem_slide
  have hglyph : ∀ c ∈ (slide p budget cells).taken.getLast?, c.isEscape = false :=
    isEscape_getLast?_slide
  have hcolumns : (slide p budget cells).taken ≠ [] →
      (columns (slide p budget cells).taken : Int) ≤ budget := columns_slide_le
  rcases List.eq_nil_or_concat (slide p budget cells).taken with hnil | ⟨moved, last, hconcat⟩
  · exact .inl hnil
  · rw [List.concat_eq_append] at hconcat
    rw [hconcat, List.forall_mem_append, List.forall_mem_singleton] at hkind
    rw [hconcat, List.getLast?_concat] at hglyph
    rw [hconcat] at hcolumns
    have hlast : last.isEscape = false := hglyph last rfl
    rw [hlast] at hkind
    exact .inr ⟨moved, last, hconcat, hkind.1, hlast, hkind.2.resolve_left Bool.false_ne_true,
      hcolumns (List.concat_ne_nil last moved)⟩

theorem lt_of_slide_rest {c : Cell} {after : List Cell} (hglyph : c.isEscape = false)
    (hp : p c = true) :
    ∀ escapes : List Cell, (slide p budget cells).rest = escapes ++ c :: after →
      (∀ e ∈ escapes, e.isEscape = true) →
        budget < columns (slide p budget cells).taken + c.width := by
  fun_induction slide p budget cells with
  | case1 => simp
  | case2 budget e cells he s hs ih =>
    intro escapes h hescapes
    rcases escapes with _ | ⟨d, escapes⟩
    · rw [(List.cons.inj h).1, hglyph] at he
      cases he
    · have hall := all_slide p budget cells
      rw [all, List.isEmpty_iff.1 hs, List.nil_append] at hall
      have hlt := ih escapes (hall.trans (List.cons.inj h).2) (List.forall_mem_cons.1 hescapes).2
      rwa [List.isEmpty_iff.1 hs] at hlt
  | case3 budget e cells he s hs ih =>
    intro escapes h hescapes
    rw [columns_cons, width_of_isEscape he, Nat.zero_add]
    exact ih escapes h hescapes
  | case4 budget d cells hd hfits s ih =>
    intro escapes h hescapes
    have hlt : budget - d.width < columns s.taken + c.width := ih escapes h hescapes
    rw [columns_cons]
    omega
  | case5 budget d cells hd hstop =>
    intro escapes h hescapes
    rw [eq_of_cons_eq h (Bool.eq_false_iff.2 hd) hescapes] at hp ⊢
    rw [columns_nil]
    exact Int.not_le.1 fun hle => hstop ⟨hp, by simpa using hle⟩

/-- **What going back over punctuation does.**  It leaves the first cell and what the scan from the
end did not pass. -/
theorem runOut_cases {s : Split} (hs : s.taken ≠ []) (budget : Int) :
    ∃ head kept ranOut, s.taken = head :: (kept ++ ranOut) ∧
      s.runOut budget = ⟨head :: kept, ranOut ++ s.rest⟩ ∧
      (ranOut = [] ∨ ∃ first moved, ranOut = first :: moved ∧ first.isOpening = true ∧
        (∀ c ∈ moved, c.isEscape = true ∨ c.isOpening = true) ∧
        (columns (first :: moved) : Int) ≤ budget) ∧
      ∀ {before escapes : List Cell} {c : Cell}, kept = before ++ c :: escapes →
        (∀ e ∈ escapes, e.isEscape = true) → c.isOpening = true →
          budget < columns ranOut + c.width := by
  obtain ⟨head, cells, hcells⟩ := List.exists_cons_of_ne_nil hs
  have hall := congrArg List.reverse (all_slide isOpening budget cells.reverse)
  rw [all, List.reverse_append, List.reverse_reverse] at hall
  refine ⟨head, _, _, by rw [hall, hcells], by rw [runOut, hcells], ?_, ?_⟩
  · rw [List.reverse_eq_nil_iff]
    refine slide_taken_cases.imp_right ?_
    rintro ⟨moved, last, htaken, hmoved, -, hlast, hcolumns⟩
    rw [← columns_reverse, List.reverse_concat] at hcolumns
    exact ⟨last, moved.reverse, by rw [htaken, List.reverse_concat], hlast,
      fun c hc => hmoved c (List.mem_reverse.1 hc), hcolumns⟩
  · intro before escapes c hkept hescapes hopening
    -- the scan went the other way
    have hback := congrArg List.reverse hkept
    rw [List.reverse_reverse, List.reverse_append, List.reverse_cons, List.append_assoc,
      List.singleton_append] at hback
    rw [columns_reverse]
    exact lt_of_slide_rest (isEscape_of_headIs hopening) hopening _ hback fun e he =>
      hescapes e (List.mem_reverse.1 he)

end Split

/-! ## The two scans -/

namespace Breaking

/-- How punctuation may move a cut: not at all, or forward over `ranIn`, which ends with a closing
glyph, or back over `ranOut`, which begins with an opening glyph. -/
inductive Shift (b : Breaking) (s : Split) : Split → List Cell → List Cell → Prop
  /-- The cut stays where it is. -/
  | stay : Shift b s s [] []
  /-- Closing punctuation is taken in. -/
  | runIn {moved rest : List Cell} {last : Cell} (hrest : s.rest = moved ++ last :: rest)
      (hmoved : ∀ c ∈ moved, c.isEscape = true ∨ c.isClosing = true)
      (hlast : last.isClosing = true) (hcolumns : (columns (moved ++ [last]) : Int) ≤ b.runIn) :
      Shift b s ⟨s.taken ++ moved ++ [last], rest⟩ (moved ++ [last]) []
  /-- Opening punctuation is given up. -/
  | runOut {taken moved : List Cell} {first : Cell} (htaken : s.taken = taken ++ first :: moved)
      (hfirst : first.isOpening = true)
      (hmoved : ∀ c ∈ moved, c.isEscape = true ∨ c.isOpening = true)
      (hcolumns : (columns (first :: moved) : Int) ≤ b.runOut) :
      Shift b s ⟨taken, first :: moved ++ s.rest⟩ [] (first :: moved)

/-- The rules are kept as far as the limits allow, once `ranIn` has been taken in and `ranOut` has
been given up. -/
structure Settled (b : Breaking) (s : Split) (ranIn ranOut : List Cell) : Prop where
  /-- A closing glyph begins the rest only if it cannot be taken in as well. -/
  closing : ∀ {escapes after : List Cell} {c : Cell}, s.rest = escapes ++ c :: after →
    (∀ e ∈ escapes, e.isEscape = true) → c.isClosing = true → b.runIn < columns ranIn + c.width
  /-- An opening glyph ends what was taken only if it cannot be given up as well. -/
  opening : ∀ {before escapes : List Cell} {c : Cell}, s.taken = before ++ c :: escapes →
    (∀ e ∈ escapes, e.isEscape = true) → c.isOpening = true →
      before = [] ∨ b.runOut < columns ranOut + c.width

variable {b : Breaking} {s : Split}

theorem shift_runIn (hne : (Split.slide isClosing b.runIn s.rest).taken ≠ []) :
    ∃ ranIn, b.Shift s (s.runIn b.runIn) ranIn [] ∧ b.Settled (s.runIn b.runIn) ranIn [] := by
  obtain ⟨moved, last, htaken, hmoved, hglyph, hlast, hcolumns⟩ :=
    Split.slide_taken_cases.resolve_left hne
  have hall := Split.all_slide isClosing b.runIn s.rest
  rw [Split.all, htaken, List.append_assoc, List.singleton_append] at hall
  have hrun : s.runIn b.runIn =
      ⟨s.taken ++ moved ++ [last], (Split.slide isClosing b.runIn s.rest).rest⟩ := by
    rw [Split.runIn, htaken, List.append_assoc]
  refine ⟨moved ++ [last], ?_, ?_, ?_⟩
  · rw [hrun]
    exact .runIn hall.symm hmoved hlast hcolumns
  · intro escapes after c hrest hescapes hclosing
    rw [← htaken]
    exact Split.lt_of_slide_rest (isEscape_of_headIs hclosing) hclosing _ hrest hescapes
  · -- what was taken ends with a closing glyph now
    intro before escapes c hc hescapes hopening
    rw [hrun] at hc
    rw [eq_of_concat_eq hc hglyph hescapes] at hopening
    rw [isClosing_of_isOpening hopening] at hlast
    cases hlast

theorem shift_runOut (hnil : (Split.slide isClosing b.runIn s.rest).taken = [])
    (hs : s.taken ≠ []) :
    ∃ ranOut, b.Shift s (s.runOut b.runOut) [] ranOut ∧
      b.Settled (s.runOut b.runOut) [] ranOut := by
  have hall := Split.all_slide isClosing b.runIn s.rest
  rw [Split.all, hnil, List.nil_append] at hall
  obtain ⟨head, kept, ranOut, htaken, hrun, hran, hkept⟩ := Split.runOut_cases hs b.runOut
  have hopening : ∀ {before escapes : List Cell} {c : Cell},
      head :: kept = before ++ c :: escapes → (∀ e ∈ escapes, e.isEscape = true) →
        c.isOpening = true → before = [] ∨ b.runOut < columns ranOut + c.width := by
    intro before escapes c h hescapes hc
    rcases before with _ | ⟨d, before⟩
    · exact .inl rfl
    · exact .inr (hkept (List.cons.inj h).2 hescapes hc)
  rw [hrun]
  rcases hran with rfl | ⟨first, moved, rfl, hfirst, hmoved, hcolumns⟩
  · rw [List.append_nil] at htaken
    rw [← htaken] at hopening ⊢
    refine ⟨[], .stay, fun hrest hescapes hc => ?_, hopening⟩
    have hlt := Split.lt_of_slide_rest (isEscape_of_headIs hc) hc _ (hall.trans hrest) hescapes
    rwa [hnil] at hlt
  · refine ⟨first :: moved, .runOut htaken hfirst hmoved hcolumns, fun hrest hescapes hc => ?_,
      hopening⟩
    -- the rest begins with an opening glyph now
    rw [eq_of_cons_eq hrest (isEscape_of_headIs hfirst) hescapes,
      isClosing_of_isOpening hfirst] at hc
    cases hc

/-- Punctuation moves a cut as far as the limits allow, and only over punctuation. -/
theorem shift_atPunctuation (hk : b.kinsoku = .strict) (hs : s.taken ≠ []) {c : Cell}
    {rest : List Cell} (hrest : s.rest = c :: rest) (hc : 0 < c.width) :
    ∃ ranIn ranOut, b.Shift s (b.atPunctuation s) ranIn ranOut ∧
      b.Settled (b.atPunctuation s) ranIn ranOut := by
  rcases b.atPunctuation_cases hk hrest hc with ⟨hnil, hcut⟩ | ⟨hne, hcut⟩
  · obtain ⟨ranOut, h⟩ := shift_runOut hnil hs
    exact ⟨[], ranOut, by rwa [hcut]⟩
  · obtain ⟨ranIn, h⟩ := shift_runIn hne
    exact ⟨ranIn, [], by rwa [hcut]⟩

/-! ## The whole cut -/

variable {width : Int} {cells : List Cell}

theorem overflows_of_plain (hrest : (b.plain width cells).rest ≠ [])
    (hcolumns : 0 < columns (b.plain width cells).taken) : Overflows width cells := by
  rcases b.plain_cases width cells with h | ⟨before, brk, escapes, word, run, htaken, h, -, -⟩
  · rw [h] at hrest hcolumns
    exact ⟨hrest, Nat.pos_iff_ne_zero.1 hcolumns⟩
  · refine ⟨fun hnil => ?_, ?_⟩
    · have hsplit : (Split.fit width cells).splitsWord = false :=
        Bool.eq_false_iff.2 fun h => Split.rest_ne_nil_of_splitsWord h hnil
      have hplain : b.plain width cells = Split.fit width cells := by
        rw [plain, atWord.eq_def]
        split
        · rfl
        · rw [Split.toWordStart, hsplit]
          rfl
      exact hrest (by rw [hplain, hnil])
    · rw [h] at hcolumns
      rw [htaken]
      simp only [columns_append, columns_cons] at hcolumns ⊢
      omega

/-- **The strict rules for lines.**  Where the plain cut takes columns and leaves cells, the cut
takes at least one cell and loses none.  It is the plain cut, or has closing punctuation taken in
within one limit, or opening punctuation given up within the other; and a closing glyph begins the
next line, or an opening glyph other than the first cell ends this one, only if its columns exceed
what is left of the limit. -/
theorem cut_shift (hk : b.kinsoku = .strict) (hw : 0 < width)
    (hrest : (b.plain width cells).rest ≠ [])
    (hcolumns : 0 < columns (b.plain width cells).taken) :
    (b.cut width cells).taken ≠ [] ∧
      (b.cut width cells).taken ++ (b.cut width cells).rest = cells ∧
      ∃ ranIn ranOut, b.Shift (b.plain width cells) (b.cut width cells) ranIn ranOut ∧
        b.Settled (b.cut width cells) ranIn ranOut := by
  have hover := overflows_of_plain hrest hcolumns
  have htaken : (b.plain width cells).taken ≠ [] := fun hnil => by
    rw [hnil, columns_nil] at hcolumns
    exact Nat.lt_irrefl 0 hcolumns
  obtain ⟨c, rest, hc, hwidth⟩ := b.plain_rest hw hover
  refine ⟨b.cut_taken_ne_nil hw ?_, b.cut_append width cells, ?_⟩
  · rintro rfl
    exact hover.1 rfl
  · rw [b.cut_of_overflows hw hover]
    exact shift_atPunctuation hk htaken hc hwidth

/-- A cut that goes back to a word, then over one bracket, but not over the wide one before it. -/
theorem cut_shift_brackets :
    let b : Breaking := ⟨.word, .strict, 2, 2⟩
    let cells := Cell.ofText .narrow (Text.ofString "ab「\x1b[1m(cd")
    b.kinsoku = .strict ∧ (0 : Int) < 6 ∧ (b.plain 6 cells).rest ≠ [] ∧
      0 < columns (b.plain 6 cells).taken ∧ (b.plain 6 cells).taken.length = 5 ∧
      (b.cut 6 cells).taken.length = 4 ∧
      ∃ ranIn ranOut, b.Shift (b.plain 6 cells) (b.cut 6 cells) ranIn ranOut ∧
        b.Settled (b.cut 6 cells) ranIn ranOut := by
  intro b cells
  have hrest : (b.plain 6 cells).rest ≠ [] := by decide +kernel
  have hcolumns : 0 < columns (b.plain 6 cells).taken := by decide +kernel
  obtain ⟨-, -, hshift⟩ := cut_shift (b := b) rfl (by decide : (0 : Int) < 6) hrest hcolumns
  exact ⟨rfl, by decide, hrest, hcolumns, by decide +kernel, by decide +kernel, hshift⟩

end Breaking
end ColumnFold
