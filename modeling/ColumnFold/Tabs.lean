import ColumnFold.Cell
import ColumnFold.Repetition

/-!
# Tab stops

A tab reaches to the next tab stop.  It is expanded to a head and to as many further columns of
space as are left up to there; the column is counted in the text before expansion, where every tab
counts for the columns that it reaches over.

* `Tabs` — the distance of the tab stops, and what a tab is expanded to.
* `Tabs.expand` — a text with its tabs expanded.
-/

set_option autoImplicit false

namespace ColumnFold

/-- How tabs are expanded. -/
structure Tabs where
  /-- The distance between tab stops. -/
  stop : Int
  /-- What the first column of a tab shows. -/
  head : String
  /-- What each other column of a tab shows. -/
  space : String
deriving DecidableEq

/-- Whether a cell is a tab. -/
def Cell.isTab : Cell → Bool
  | .glyph (.char '\t') [] _ => true
  | _ => false

namespace Tabs

/-- How many columns a tab at the column `col` reaches over. -/
def reach (tabs : Tabs) (col : Int) : Int := tabs.stop - Int.fmod col tabs.stop

/-- What a tab that reaches over `n` columns is expanded to. -/
def fill (tabs : Tabs) (n : Int) : Text :=
  Text.ofString tabs.head ++ Repetition.times (n - 1) (Text.ofString tabs.space)

/-- The text of cells that begin at the column `col`, with its tabs expanded. -/
def expandFrom (tabs : Tabs) (col : Int) : List Cell → Text
  | [] => []
  | c :: cells =>
    if c.isTab then
      tabs.fill (tabs.reach col) ++ expandFrom tabs (col + tabs.reach col) cells
    else c.text ++ expandFrom tabs (col + c.width) cells

/-- A text with its tabs expanded. -/
def expand (tabs : Tabs) (a : Ambiguity) (t : Text) : Text :=
  tabs.expandFrom 0 (Cell.ofText a t)

/-- A tab reaches over at least one column, and over no more than lie between tab stops. -/
theorem reach_bounds {tabs : Tabs} (h : 0 < tabs.stop) (col : Int) :
    1 ≤ tabs.reach col ∧ tabs.reach col ≤ tabs.stop := by
  have h1 := Int.fmod_nonneg_of_pos col h
  have h2 := Int.fmod_lt_of_pos col h
  rw [reach.eq_def]
  omega

theorem expandFrom_of_noTabs (tabs : Tabs) (col : Int) {cells : List Cell}
    (h : ∀ c ∈ cells, c.isTab = false) : tabs.expandFrom col cells = Cell.spell cells := by
  induction cells generalizing col with
  | nil => rfl
  | cons c cells ih =>
    rw [expandFrom, h c List.mem_cons_self, if_neg Bool.false_ne_true,
      ih _ fun d hd => h d (List.mem_cons_of_mem _ hd), Cell.spell_cons]

/-- Expanded tabs have the symbols of the cells that are neither tabs nor fill the columns of
tabs. -/
theorem mem_expandFrom {tabs : Tabs} {s : Symbol} (htab : s ≠ .tab)
    (hhead : s ∉ Text.ofString tabs.head) (hspace : s ∉ Text.ofString tabs.space) (col : Int)
    (cells : List Cell) : s ∈ tabs.expandFrom col cells ↔ s ∈ Cell.spell cells := by
  induction cells generalizing col with
  | nil => exact Iff.rfl
  | cons c cells ih =>
    rw [expandFrom, Cell.spell_cons, List.mem_append]
    split
    · rename_i hc
      have hfill : s ∉ tabs.fill (tabs.reach col) := by
        simp [fill, Repetition.times_eq, hhead, hspace]
      have htext : s ∉ c.text := by
        rw [Cell.isTab.eq_def] at hc
        split at hc
        · exact fun hmem => htab (List.mem_singleton.1 hmem)
        · cases hc
      rw [List.mem_append, ih, or_iff_right hfill, or_iff_right htext]
    · rw [List.mem_append, ih]

end Tabs
end ColumnFold
