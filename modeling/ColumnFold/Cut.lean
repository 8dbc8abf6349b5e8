import ColumnFold.Punctuation

/-!
# Cutting a line

One cut takes from the cells of a line what goes into a field of a given width.  As many cells are
taken as fit.  If a glyph is wider than the field, it is taken all the same, with the cells without
width after it.  Otherwise the cut may move: back to the beginning of a word that it would split,
then forward over closing punctuation, or else back over opening punctuation.

* `Split` — the cells before and after a cut.
* `Breaking` — where a line may be cut.
* `Breaking.cut` — the cut for a width.
* `Breaking.cut_append` — nothing is lost or reordered by a cut.
* `Breaking.cut_rest_lt` — a cut for a positive width takes at least one cell.
-/

set_option autoImplicit false

namespace ColumnFold

open Cell

/-- The cells before and after a cut. -/
structure Split where
  /-- The cells before the cut. -/
  taken : List Cell
  /-- The cells after the cut. -/
  rest : List Cell
deriving DecidableEq

namespace Split

/-- All the cells, in order. -/
def all (s : Split) : List Cell := s.taken ++ s.rest

/-! ## The greedy cut -/

/-- Takes cells from the front while they fit into `budget` columns. -/
def fit (budget : Int) : List Cell → Split
  | [] => ⟨[], []⟩
  | c :: cells =>
    if (c.width : Int) ≤ budget then
      let s := fit (budget - c.width) cells
      ⟨c :: s.taken, s.rest⟩
    else ⟨[], c :: cells⟩

theorem all_fit (budget : Int) (cells : List Cell) : (fit budget cells).all = cells := by
  fun_induction fit budget cells with
  | case1 => rfl
  | case2 budget c cells h s ih => exact congrArg (c :: ·) ih
  | case3 => rfl

/-- Takes the first cell left over, however wide, and the cells without width after it. -/
def force (s : Split) : Split :=
  match s.rest with
  | [] => s
  | c :: cells =>
    ⟨s.taken ++ c :: cells.takeWhile (·.width == 0), cells.dropWhile (·.width == 0)⟩

theorem all_force (s : Split) : s.force.all = s.all := by
  rw [force.eq_def]
  split
  · rfl
  · rename_i h
    simp [all, h]

/-! ## Words -/

/-- Whether a cut splits a word. -/
def splitsWord (s : Split) : Bool :=
  (s.taken.reverse.find? (!·.isEscape)).any isWord && (s.rest.find? (!·.isEscape)).any isWord

/-- Whether a cell may stand in a run of word glyphs. -/
def inWordRun (c : Cell) : Bool := c.isEscape || c.isWord

/-- Moves a cut that splits a word to the beginning of the word, unless the word begins before the
first cell.  Escape sequences before the word stay where they are. -/
def toWordStart (s : Split) : Split :=
  if s.splitsWord then
    let back := s.taken.reverse
    match back.dropWhile inWordRun with
    | [] => s
    | c :: cells =>
      let run := (back.takeWhile inWordRun).reverse
      ⟨(c :: cells).reverse ++ run.takeWhile isEscape, run.dropWhile isEscape ++ s.rest⟩
  else s

theorem all_toWordStart (s : Split) : s.toWordStart.all = s.all := by
  rw [toWordStart.eq_def]
  split
  · simp only
    split
    · rfl
    · rename_i c cells h
      have hb := List.takeWhile_append_dropWhile (p := inWordRun) (l := s.taken.reverse)
      rw [h] at hb
      have ht : s.taken =
          (c :: cells).reverse ++ (s.taken.reverse.takeWhile inWordRun).reverse := by
        rw [← List.reverse_append, hb, List.reverse_reverse]
      have hr := List.takeWhile_append_dropWhile (p := isEscape)
        (l := (s.taken.reverse.takeWhile inWordRun).reverse)
      simp only [all]
      conv => rhs; rw [ht, ← hr]
      simp only [List.append_assoc]
  · rfl

/-! ## Punctuation -/

/-- Takes glyphs that satisfy `p` from the front, as long as their columns stay within `budget`.
An escape sequence is taken if a glyph after it is. -/
def slide (p : Cell → Bool) (budget : Int) : List Cell → Split
  | [] => ⟨[], []⟩
  | c :: cells =>
    if c.isEscape then
      let s := slide p budget cells
      if s.taken.isEmpty then ⟨[], c :: cells⟩ else ⟨c :: s.taken, s.rest⟩
    else if p c ∧ (c.width : Int) ≤ budget then
      let s := slide p (budget - c.width) cells
      ⟨c :: s.taken, s.rest⟩
    else ⟨[], c :: cells⟩

theorem all_slide (p : Cell → Bool) (budget : Int) (cells : List Cell) :
    (slide p budget cells).all = cells := by
  fun_induction slide p budget cells with
  | case1 => rfl
  | case2 => rfl
  | case3 budget c cells _ s _ ih => exact congrArg (c :: ·) ih
  | case4 budget c cells _ _ s ih => exact congrArg (c :: ·) ih
  | case5 => rfl

/-- Moves a cut forward over closing punctuation of at most `budget` columns. -/
def runIn (budget : Int) (s : Split) : Split :=
  let moved := slide isClosing budget s.rest
  ⟨s.taken ++ moved.taken, moved.rest⟩

/-- Moves a cut back over opening punctuation of at most `budget` columns, but never before the
first cell. -/
def runOut (budget : Int) (s : Split) : Split :=
  match s.taken with
  | [] => s
  | c :: cells =>
    let moved := slide isOpening budget cells.reverse
    ⟨c :: moved.rest.reverse, moved.taken.reverse ++ s.rest⟩

theorem all_runIn (budget : Int) (s : Split) : (s.runIn budget).all = s.all := by
  have h := all_slide isClosing budget s.rest
  simp only [all] at h
  simp [all, runIn, h]

theorem all_runOut (budget : Int) (s : Split) : (s.runOut budget).all = s.all := by
  rw [runOut.eq_def]
  split
  · rfl
  · rename_i c cells hs
    have h := congrArg List.reverse (all_slide isOpening budget cells.reverse)
    simp only [all, List.reverse_append, List.reverse_reverse] at h
    simp only [all, hs, List.cons_append, ← List.append_assoc, h]

end Split

/-! ## Where a line may be cut -/

/-- Whether a cut may fall inside a word. -/
inductive Boundary where
  /-- A line may be cut between any two cells. -/
  | anywhere
  /-- A line is cut between words where possible. -/
  | word
deriving DecidableEq

/-- Whether punctuation moves a cut. -/
inductive Kinsoku where
  /-- Punctuation does not matter. -/
  | free
  /-- Closing punctuation does not begin a field, and opening punctuation does not end one, where
  possible. -/
  | strict
deriving DecidableEq

/-- Where a line may be cut. -/
structure Breaking where
  /-- Whether a cut may fall inside a word. -/
  boundary : Boundary
  /-- Whether punctuation moves a cut. -/
  kinsoku : Kinsoku
  /-- How many columns of closing punctuation a field may take in beyond its width. -/
  runIn : Int
  /-- How many columns of opening punctuation a field may give up. -/
  runOut : Int
deriving DecidableEq

namespace Breaking

/-- The cut after the word rule. -/
def atWord (b : Breaking) (s : Split) : Split :=
  match b.boundary with
  | .anywhere => s
  | .word => s.toWordStart

/-- The cut after the punctuation rules: opening punctuation is given up only if no closing
punctuation was taken in. -/
def atPunctuation (b : Breaking) (s : Split) : Split :=
  match b.kinsoku with
  | .free => s
  | .strict =>
    let s' := s.runIn b.runIn
    if columns s.taken < columns s'.taken then s' else s'.runOut b.runOut

/-- The cut for a field of the given width. -/
def cut (b : Breaking) (width : Int) (cells : List Cell) : Split :=
  if width ≤ 0 then ⟨[], cells⟩
  else
    let s := Split.fit width cells
    if s.rest.isEmpty then s
    else if columns s.taken = 0 then s.force
    else b.atPunctuation (b.atWord s)

theorem all_atWord (b : Breaking) (s : Split) : (b.atWord s).all = s.all := by
  rw [atWord.eq_def]
  split
  · rfl
  · exact s.all_toWordStart

theorem all_atPunctuation (b : Breaking) (s : Split) : (b.atPunctuation s).all = s.all := by
  rw [atPunctuation.eq_def]
  split
  · rfl
  · simp only
    split
    · exact s.all_runIn _
    · rw [Split.all_runOut, Split.all_runIn]

/-- A cut keeps all the cells, in order. -/
theorem cut_append (b : Breaking) (width : Int) (cells : List Cell) :
    (b.cut width cells).taken ++ (b.cut width cells).rest = cells := by
  change (b.cut width cells).all = cells
  rw [cut.eq_def]
  split
  · rfl
  · simp only
    split
    · exact Split.all_fit _ _
    · split
      · rw [Split.all_force, Split.all_fit]
      · rw [all_atPunctuation, all_atWord, Split.all_fit]

/-! ## A cut makes progress -/

theorem toWordStart_taken_ne_nil {s : Split} (h : s.taken ≠ []) : s.toWordStart.taken ≠ [] := by
  rw [Split.toWordStart.eq_def]
  split
  · simp only
    split
    · exact h
    · simp
  · exact h

theorem atPunctuation_taken_ne_nil (b : Breaking) {s : Split} (h : s.taken ≠ []) :
    (b.atPunctuation s).taken ≠ [] := by
  rw [atPunctuation.eq_def]
  split
  · exact h
  · simp only
    split
    · simp [Split.runIn, h]
    · rw [Split.runOut.eq_def]
      split
      · rename_i hs
        simp [Split.runIn, h] at hs
      · simp

/-- A cut for a positive width takes at least one cell. -/
theorem cut_taken_ne_nil (b : Breaking) {width : Int} (hw : 0 < width) {cells : List Cell}
    (hc : cells ≠ []) : (b.cut width cells).taken ≠ [] := by
  have hall := Split.all_fit width cells
  rw [cut.eq_def]
  rw [if_neg (by omega)]
  simp only
  split
  · rename_i h
    rw [List.isEmpty_iff] at h
    rw [Split.all, h, List.append_nil] at hall
    rw [hall]
    exact hc
  · split
    · rename_i h _
      rw [Split.force.eq_def]
      split
      · rename_i hr
        simp [hr] at h
      · simp
    · rename_i h
      refine atPunctuation_taken_ne_nil b ?_
      have ht : (Split.fit width cells).taken ≠ [] := fun ht => h (by rw [ht]; rfl)
      rw [atWord.eq_def]
      split
      · exact ht
      · exact toWordStart_taken_ne_nil ht

theorem cut_rest_lt (b : Breaking) {width : Int} (hw : 0 < width) {cells : List Cell}
    (hc : cells ≠ []) : (b.cut width cells).rest.length < cells.length := by
  have h := congrArg List.length (b.cut_append width cells)
  have ht := List.length_pos_iff.2 (b.cut_taken_ne_nil hw hc)
  rw [List.length_append] at h
  omega

end Breaking
end ColumnFold
