import ColumnFold.Cut
import Mathlib.Data.List.TakeWhile

/-!
# What a cut can do

A cut is made in steps: as many cells as fit, or one glyph by force; then back to a word; then over
punctuation, forward or back.  Each step has its facts here, once, so that what is proved of cuts
does not open the steps again.  `Breaking.cut_cases` says which steps a cut is made of.

The first glyph after the greedy cut has columns, because cells without columns always fit; and a
word that a cut goes back to begins with a glyph of one column.  So the line never goes on with a
glyph without columns after these two steps (`Breaking.plain_rest`), and punctuation that is taken
in afterwards always adds columns.

* `Split.toWordStart_cases` — what going back to a word does.
* `Breaking.plain` — the cut before punctuation moves it.
* `Breaking.Overflows` — whether words and punctuation matter to a cut.
* `Breaking.cut_cases`, `Breaking.atPunctuation_cases` — how a cut comes about.
-/

set_option autoImplicit false

namespace ColumnFold

open Cell

theorem Cell.exists_glyph_of_columns {cells : List Cell} (h : columns cells ≠ 0) :
    ∃ c ∈ cells, c.isEscape = false := by
  induction cells with
  | nil => exact absurd rfl h
  | cons c cells ih =>
    cases c with
    | glyph head tail width => exact ⟨_, List.mem_cons_self, rfl⟩
    | escape body =>
      rw [columns_cons, Cell.width, Nat.zero_add] at h
      obtain ⟨c, hc, he⟩ := ih h
      exact ⟨c, List.mem_cons_of_mem _ hc, he⟩

theorem Cell.isEscape_eq_false_of_width {c : Cell} (h : 0 < c.width) : c.isEscape = false := by
  cases c with
  | glyph head tail width => rfl
  | escape body => exact absurd h (Nat.lt_irrefl 0)

theorem Cell.width_of_isWord {c : Cell} (h : c.isWord = true) : c.width = 1 := by
  rw [isWord, Bool.and_eq_true, beq_iff_eq] at h
  exact h.1

theorem Cell.width_of_isEscape {c : Cell} (h : c.isEscape = true) : c.width = 0 := by
  cases c with
  | glyph head tail width => cases h
  | escape body => rfl

theorem Cell.not_forall_isEscape {cells : List Cell} (h : ∃ c ∈ cells, c.isEscape = false) :
    ¬ ∀ c ∈ cells, c.isEscape = true := by
  obtain ⟨c, hc, hglyph⟩ := h
  intro hall
  rw [hall c hc] at hglyph
  cases hglyph

/-- Cells have no columns exactly if none of them has. -/
theorem Cell.columns_eq_zero_iff {cells : List Cell} :
    columns cells = 0 ↔ ∀ c ∈ cells, c.width = 0 := by
  induction cells with
  | nil => simp
  | cons c cells ih => rw [columns_cons, Nat.add_eq_zero_iff, ih, List.forall_mem_cons]

theorem Cell.columns_eq_zero_of_isEscape {cells : List Cell}
    (h : ∀ c ∈ cells, c.isEscape = true) : columns cells = 0 :=
  columns_eq_zero_iff.2 fun c hc => width_of_isEscape (h c hc)

@[simp] theorem Cell.columns_reverse (cells : List Cell) :
    columns cells.reverse = columns cells := by
  induction cells with
  | nil => rfl
  | cons c cells ih =>
    rw [List.reverse_cons, columns_append, ih, columns_cons, columns_cons, columns_nil]
    omega

namespace Split

/-! ## The greedy cut -/

theorem columns_fit_le {budget : Int} (h : 0 ≤ budget) (cells : List Cell) :
    (columns (fit budget cells).taken : Int) ≤ budget := by
  fun_induction fit budget cells with
  | case1 => exact h
  | case2 budget c cells hc s ih =>
    have hs : (columns s.taken : Int) ≤ budget - c.width := ih (by omega)
    rw [columns_cons]
    omega
  | case3 => exact h

theorem lt_of_fit_rest {budget : Int} {cells : List Cell} {c : Cell} {rest : List Cell}
    (h : (fit budget cells).rest = c :: rest) :
    budget < columns (fit budget cells).taken + c.width := by
  fun_induction fit budget cells with
  | case1 => cases h
  | case2 budget d cells hd s ih =>
    have hs : budget - d.width < columns s.taken + c.width := ih h
    rw [columns_cons]
    omega
  | case3 budget d cells hd =>
    obtain ⟨rfl, rfl⟩ := List.cons.inj h
    rw [columns_nil]
    omega

theorem width_pos_of_fit_rest {budget : Int} (hb : 0 ≤ budget) {cells : List Cell} {c : Cell}
    {rest : List Cell} (h : (fit budget cells).rest = c :: rest) : 0 < c.width := by
  have hle := columns_fit_le hb cells
  have hlt := lt_of_fit_rest h
  omega

/-! ## Sliding over glyphs -/

section
variable {p : Cell → Bool} {budget : Int} {cells : List Cell}

/-- What a cut slides over are escape sequences and glyphs of the right kind. -/
theorem isEscape_or_of_mem_slide :
    ∀ c ∈ (slide p budget cells).taken, c.isEscape = true ∨ p c = true := by
  fun_induction slide p budget cells with
  | case1 => simp
  | case2 => simp
  | case3 budget c cells he s hs ih =>
    intro d hd
    rcases List.mem_cons.1 hd with rfl | hd
    · exact .inl he
    · exact ih d hd
  | case4 budget c cells he hc s ih =>
    intro d hd
    rcases List.mem_cons.1 hd with rfl | hd
    · exact .inr hc.1
    · exact ih d hd
  | case5 => simp

/-- What a cut slides over has no more columns than there are. -/
theorem columns_slide_le (h : (slide p budget cells).taken ≠ []) :
    (columns (slide p budget cells).taken : Int) ≤ budget := by
  fun_induction slide p budget cells with
  | case1 => exact absurd rfl h
  | case2 => exact absurd rfl h
  | case3 budget c cells he s hs ih =>
    have hs : (columns s.taken : Int) ≤ budget := ih fun hnil => hs (List.isEmpty_iff.2 hnil)
    rw [columns_cons, width_of_isEscape he]
    omega
  | case4 budget c cells he hc s ih =>
    rw [columns_cons]
    by_cases hnil : s.taken = []
    · rw [hnil, columns_nil]
      exact hc.2
    · have hs : (columns s.taken : Int) ≤ budget - c.width := ih hnil
      omega
  | case5 => exact absurd rfl h

/-- A cut slides up to a glyph: an escape sequence is never the last cell. -/
theorem isEscape_getLast?_slide :
    ∀ c ∈ (slide p budget cells).taken.getLast?, c.isEscape = false := by
  fun_induction slide p budget cells with
  | case1 => simp
  | case2 => simp
  | case3 budget c cells he s hs ih =>
    have hne : s.taken ≠ [] := fun hnil => hs (List.isEmpty_iff.2 hnil)
    rwa [List.getLast?_cons_of_ne_nil hne]
  | case4 budget c cells he hc s ih =>
    by_cases hnil : s.taken = []
    · rw [hnil]
      simpa using he
    · rwa [List.getLast?_cons_of_ne_nil hnil]
  | case5 => simp

/-- A cut slides over all glyphs if all are of the right kind and their columns suffice. -/
theorem isEscape_of_mem_slide_rest (h : ∀ c ∈ cells, c.isEscape = true ∨ p c = true)
    (hc : (columns cells : Int) ≤ budget) :
    ∀ c ∈ (slide p budget cells).rest, c.isEscape = true := by
  fun_induction slide p budget cells with
  | case1 => simp
  | case2 budget c cells he s hs ih =>
    rw [columns_cons, width_of_isEscape he, Nat.zero_add] at hc
    have hrest : s.rest = cells := by
      have hall := all_slide p budget cells
      rwa [all, List.isEmpty_iff.1 hs] at hall
    rw [hrest] at ih
    intro d hd
    rcases List.mem_cons.1 hd with rfl | hd
    · exact he
    · exact ih (fun d hd => h d (List.mem_cons_of_mem c hd)) hc d hd
  | case3 budget c cells he s hs ih =>
    rw [columns_cons, width_of_isEscape he, Nat.zero_add] at hc
    exact ih (fun d hd => h d (List.mem_cons_of_mem c hd)) hc
  | case4 budget c cells he hp s ih =>
    rw [columns_cons] at hc
    exact ih (fun d hd => h d (List.mem_cons_of_mem c hd)) (by omega)
  | case5 budget c cells he hp =>
    rw [columns_cons] at hc
    have hpc := (h c List.mem_cons_self).resolve_left he
    exact absurd ⟨hpc, by omega⟩ hp

/-- A cut does not slide if the first glyph is of the wrong kind or too wide. -/
theorem slide_taken_eq_nil_iff :
    (slide p budget cells).taken = [] ↔
      ∀ c, cells.find? (!·.isEscape) = some c → ¬(p c = true ∧ (c.width : Int) ≤ budget) := by
  fun_induction slide p budget cells with
  | case1 => simp
  | case2 budget c cells he s hs ih =>
    rw [List.find?_cons_of_neg (by simp [he])]
    exact iff_of_true rfl (ih.1 (List.isEmpty_iff.1 hs))
  | case3 budget c cells he s hs ih =>
    rw [List.find?_cons_of_neg (by simp [he])]
    refine iff_of_false (List.cons_ne_nil _ _) fun h => hs (List.isEmpty_iff.2 (ih.2 h))
  | case4 budget c cells he hc s ih =>
    rw [List.find?_cons_of_pos (by simp [he])]
    exact iff_of_false (List.cons_ne_nil _ _) fun h => h c rfl hc
  | case5 budget c cells he hc =>
    rw [List.find?_cons_of_pos (by simp [he])]
    refine iff_of_true rfl ?_
    rintro _ ⟨rfl⟩
    exact hc

end

/-! ## Going back to a word -/

theorem isWord_of_inWordRun {c : Cell} (h : inWordRun c = true) (he : c.isEscape = false) :
    c.isWord = true := by
  rwa [inWordRun, he, Bool.false_or] at h

theorem isEscape_of_not_inWordRun {c : Cell} (h : inWordRun c = false) : c.isEscape = false := by
  rw [inWordRun, Bool.or_eq_false_iff] at h
  exact h.1

/-- Before the run of word glyphs at the end stands a glyph of another kind. -/
theorem taken_eq_of_dropWhile {s : Split} {brk : Cell} {back : List Cell}
    (h : s.taken.reverse.dropWhile inWordRun = brk :: back) :
    s.taken = back.reverse ++ brk :: (s.taken.reverse.takeWhile inWordRun).reverse := by
  have hback := List.takeWhile_append_dropWhile (p := inWordRun) (l := s.taken.reverse)
  rw [h] at hback
  have htaken := congrArg List.reverse hback
  rw [List.reverse_append, List.reverse_reverse, List.reverse_cons, List.append_assoc,
    List.singleton_append] at htaken
  exact htaken.symm

theorem isWord_of_splitsWord_taken {s : Split} {before escapes : List Cell} {c : Cell}
    (h : s.splitsWord = true) (ht : s.taken = before ++ c :: escapes)
    (hglyph : c.isEscape = false) (hescapes : ∀ e ∈ escapes, e.isEscape = true) :
    c.isWord = true := by
  have hlast : s.taken.reverse.find? (!·.isEscape) = some c := by
    rw [ht, List.reverse_append, List.reverse_cons, List.append_assoc, List.find?_append,
      List.find?_eq_none.2, Option.none_or]
    · exact List.find?_cons_of_pos (by rw [hglyph]; rfl)
    · intro e he
      simp [hescapes e (List.mem_reverse.1 he)]
  rw [splitsWord, hlast, Bool.and_eq_true] at h
  exact h.1

theorem isWord_of_splitsWord_rest {s : Split} {after : List Cell} {c : Cell}
    (h : s.splitsWord = true) (hr : s.rest = c :: after) (hglyph : c.isEscape = false) :
    c.isWord = true := by
  have hnext : s.rest.find? (!·.isEscape) = some c := by
    rw [hr]
    exact List.find?_cons_of_pos (by rw [hglyph]; rfl)
  rw [splitsWord, hnext, Bool.and_eq_true] at h
  exact h.2

theorem exists_isWord_of_splitsWord {s : Split} (h : s.splitsWord = true) :
    ∃ c ∈ s.taken, c.isWord = true := by
  rw [splitsWord, Bool.and_eq_true, Option.any_eq_true] at h
  obtain ⟨⟨c, hc, hword⟩, -⟩ := h
  exact ⟨c, List.mem_reverse.1 (List.mem_of_find?_eq_some hc), hword⟩

/-- A cut at the end of the line splits no word. -/
theorem rest_ne_nil_of_splitsWord {s : Split} (h : s.splitsWord = true) : s.rest ≠ [] := by
  intro hnil
  rw [splitsWord, hnil, List.find?_nil, Option.any_none, Bool.and_false] at h
  cases h

theorem dropWhile_ne_nil_of_splitsWord {s : Split} {before run : List Cell} {brk : Cell}
    (h : s.splitsWord = true) (ht : s.taken = before ++ brk :: run)
    (hbrk : inWordRun brk = false) : run.dropWhile isEscape ≠ [] := by
  intro hnil
  have hword := isWord_of_splitsWord_taken h ht (isEscape_of_not_inWordRun hbrk)
    (List.dropWhile_eq_nil_iff.1 hnil)
  rw [inWordRun, hword, Bool.or_true] at hbrk
  cases hbrk

/-- **What going back to a word does.**  A cut that splits a word goes back to the first glyph of
the run of word glyphs before it, if a glyph of another kind stands before the run. -/
theorem toWordStart_cases (s : Split) :
    (s.toWordStart = s ∧ (s.splitsWord = false ∨ ∀ c ∈ s.taken, inWordRun c = true)) ∨
      s.splitsWord = true ∧ ∃ before brk escapes word run,
        s.taken = before ++ brk :: (escapes ++ word :: run) ∧
        s.toWordStart = ⟨before ++ brk :: escapes, word :: run ++ s.rest⟩ ∧
        inWordRun brk = false ∧ (∀ c ∈ escapes, c.isEscape = true) ∧ word.isWord = true ∧
        ∀ c ∈ run, inWordRun c = true := by
  cases hsplit : s.splitsWord with
  | false =>
    rw [toWordStart, hsplit]
    exact .inl ⟨rfl, .inl rfl⟩
  | true =>
    rw [toWordStart, if_pos hsplit]
    dsimp only
    cases hdrop : s.taken.reverse.dropWhile inWordRun with
    | nil =>
      refine .inl ⟨rfl, .inr fun c hc => ?_⟩
      exact List.dropWhile_eq_nil_iff.1 hdrop c (List.mem_reverse.2 hc)
    | cons brk back =>
      have htaken := taken_eq_of_dropWhile hdrop
      have hbrk : inWordRun brk = false := by
        have h := List.head?_dropWhile_not inWordRun s.taken.reverse
        rwa [hdrop] at h
      -- the run, in the order of the line
      generalize hw : (s.taken.reverse.takeWhile inWordRun).reverse = w at htaken ⊢
      have hwrun : ∀ c ∈ w, inWordRun c = true := by
        subst hw
        intro c hc
        exact List.all_eq_true.1 List.all_takeWhile c (List.mem_reverse.1 hc)
      obtain ⟨word, run, hrun⟩ :=
        List.exists_cons_of_ne_nil (dropWhile_ne_nil_of_splitsWord hsplit htaken hbrk)
      have hsub : ∀ c ∈ word :: run, inWordRun c = true := fun c hc =>
        hwrun c (List.dropWhile_subset isEscape (hrun ▸ hc))
      have hword : word.isEscape = false := by
        have h := List.head?_dropWhile_not isEscape w
        rwa [hrun] at h
      refine .inr ⟨rfl, back.reverse, brk, w.takeWhile isEscape, word, run, ?_, ?_, hbrk,
        fun c hc => List.all_eq_true.1 List.all_takeWhile c hc,
        isWord_of_inWordRun (hsub word List.mem_cons_self) hword,
        fun c hc => hsub c (List.mem_cons_of_mem word hc)⟩
      · rw [htaken, ← hrun, List.takeWhile_append_dropWhile]
      · simp only [hrun, List.reverse_cons, List.append_assoc, List.singleton_append]

end Split

/-! ## The whole cut -/

namespace Breaking

variable (b : Breaking) {width : Int} {cells : List Cell}

/-- The cut by width and words, before punctuation moves it. -/
def plain (width : Int) (cells : List Cell) : Split := b.atWord (Split.fit width cells)

/-- Whether cells with columns fit into a width, and others are left over.  Only then do words and
punctuation matter. -/
def Overflows (width : Int) (cells : List Cell) : Prop :=
  (Split.fit width cells).rest ≠ [] ∧ columns (Split.fit width cells).taken ≠ 0

/-- **How a cut for a positive width comes about**: all cells fit, or the first glyph is forced, or
punctuation may move the plain cut. -/
theorem cut_cases (hw : 0 < width) (cells : List Cell) :
    ((Split.fit width cells).rest = [] ∧ b.cut width cells = Split.fit width cells) ∨
      ((Split.fit width cells).rest ≠ [] ∧ columns (Split.fit width cells).taken = 0 ∧
        b.cut width cells = (Split.fit width cells).force) ∨
      (Overflows width cells ∧ b.cut width cells = b.atPunctuation (b.plain width cells)) := by
  rw [cut, if_neg (Int.not_le.2 hw)]
  by_cases hrest : (Split.fit width cells).rest = []
  · exact .inl ⟨hrest, if_pos (List.isEmpty_iff.2 hrest)⟩
  · dsimp only
    rw [if_neg fun h => hrest (List.isEmpty_iff.1 h)]
    by_cases hcols : columns (Split.fit width cells).taken = 0
    · exact .inr (.inl ⟨hrest, hcols, if_pos hcols⟩)
    · exact .inr (.inr ⟨⟨hrest, hcols⟩, if_neg hcols⟩)

theorem cut_of_overflows (hw : 0 < width) (h : Overflows width cells) :
    b.cut width cells = b.atPunctuation (b.plain width cells) := by
  rcases b.cut_cases hw cells with ⟨hnil, -⟩ | ⟨-, hzero, -⟩ | ⟨-, hcut⟩
  · exact absurd hnil h.1
  · exact absurd hzero h.2
  · exact hcut

/-- Only where cells with columns fit and others do not, the greedy cut can split a word. -/
theorem overflows_of_splitsWord (h : (Split.fit width cells).splitsWord = true) :
    Overflows width cells := by
  refine ⟨Split.rest_ne_nil_of_splitsWord h, fun hzero => ?_⟩
  obtain ⟨c, hc, hword⟩ := Split.exists_isWord_of_splitsWord h
  have hone := width_of_isWord hword
  rw [columns_eq_zero_iff.1 hzero c hc] at hone
  cases hone

/-- The plain cut is the greedy cut, or goes back to a word after another glyph. -/
theorem plain_cases (width : Int) (cells : List Cell) :
    b.plain width cells = Split.fit width cells ∨
      ∃ before brk escapes word run,
        (Split.fit width cells).taken = before ++ brk :: (escapes ++ word :: run) ∧
        b.plain width cells =
          ⟨before ++ brk :: escapes, word :: run ++ (Split.fit width cells).rest⟩ ∧
        brk.isEscape = false ∧ word.isWord = true := by
  rw [plain, atWord.eq_def]
  split
  · exact .inl rfl
  · obtain ⟨hs, -⟩ | ⟨-, before, brk, escapes, word, run, ht, hs, hbrk, -, hword, -⟩ :=
      Split.toWordStart_cases (Split.fit width cells)
    · exact .inl hs
    · exact .inr ⟨before, brk, escapes, word, run, ht, hs, Split.isEscape_of_not_inWordRun hbrk,
        hword⟩

theorem columns_plain_le (hw : 0 < width) (cells : List Cell) :
    (columns (b.plain width cells).taken : Int) ≤ width := by
  have hfit := Split.columns_fit_le (Int.le_of_lt hw) cells
  obtain hs | ⟨before, brk, escapes, word, run, ht, hs, -⟩ := b.plain_cases width cells
  · rw [hs]
    exact hfit
  · rw [hs]
    rw [ht] at hfit
    simp only [columns_append, columns_cons] at hfit ⊢
    omega

theorem exists_glyph_plain (h : Overflows width cells) :
    ∃ c ∈ (b.plain width cells).taken, c.isEscape = false := by
  obtain hs | ⟨before, brk, escapes, word, run, -, hs, hbrk, -⟩ := b.plain_cases width cells
  · rw [hs]
    exact exists_glyph_of_columns h.2
  · rw [hs]
    exact ⟨brk, by simp, hbrk⟩

/-- After the plain cut the line goes on with a glyph that has columns. -/
theorem plain_rest (hw : 0 < width) (h : Overflows width cells) :
    ∃ c rest, (b.plain width cells).rest = c :: rest ∧ 0 < c.width := by
  obtain hs | ⟨before, brk, escapes, word, run, -, hs, -, hword⟩ := b.plain_cases width cells
  · obtain ⟨c, rest, hc⟩ := List.exists_cons_of_ne_nil h.1
    rw [hs]
    exact ⟨c, rest, hc, Split.width_pos_of_fit_rest (Int.le_of_lt hw) hc⟩
  · have hone := width_of_isWord hword
    rw [hs]
    exact ⟨word, run ++ (Split.fit width cells).rest, rfl, by omega⟩

/-- **How punctuation moves a cut** after which the line goes on with columns: closing punctuation
is taken in, or else opening punctuation is given up. -/
theorem atPunctuation_cases (hk : b.kinsoku = .strict) {s : Split} {c : Cell} {rest : List Cell}
    (hs : s.rest = c :: rest) (hc : 0 < c.width) :
    ((Split.slide isClosing b.runIn s.rest).taken = [] ∧
        b.atPunctuation s = s.runOut b.runOut) ∨
      ((Split.slide isClosing b.runIn s.rest).taken ≠ [] ∧
        b.atPunctuation s = s.runIn b.runIn) := by
  have hall := Split.all_slide isClosing b.runIn s.rest
  rw [atPunctuation, hk]
  dsimp only
  by_cases hnil : (Split.slide isClosing b.runIn s.rest).taken = []
  · refine .inl ⟨hnil, ?_⟩
    have hsame : s.runIn b.runIn = s := by
      rw [Split.all, hnil, List.nil_append] at hall
      rw [Split.runIn, hnil, hall, List.append_nil]
    rw [hsame, if_neg (Nat.lt_irrefl _)]
  · refine .inr ⟨hnil, if_pos ?_⟩
    obtain ⟨d, taken, hd⟩ := List.exists_cons_of_ne_nil hnil
    have hdc : d = c := by
      rw [Split.all, hd, hs] at hall
      exact (List.cons.inj hall).1
    rw [Split.runIn, hd, columns_append, columns_cons, hdc]
    omega

/-- Where a line may be cut anywhere and no glyph is wide, a cut takes just what fits. -/
theorem cut_eq_fit (hb : b.boundary = .anywhere) (hk : b.kinsoku = .free) (hw : 0 < width)
    (h : ∀ c ∈ cells, c.width ≤ 1) : b.cut width cells = Split.fit width cells := by
  obtain ⟨-, hcut⟩ | ⟨hrest, hzero, -⟩ | ⟨-, hcut⟩ := b.cut_cases hw cells
  · exact hcut
  · obtain ⟨c, rest, hc⟩ := List.exists_cons_of_ne_nil hrest
    have hmem : c ∈ cells := by
      rw [← Split.all_fit width cells, Split.all, hc]
      simp
    have hlt := Split.lt_of_fit_rest hc
    have hle := h c hmem
    rw [hzero] at hlt
    omega
  · rw [hcut, atPunctuation, hk, plain, atWord, hb]

end Breaking
end ColumnFold
