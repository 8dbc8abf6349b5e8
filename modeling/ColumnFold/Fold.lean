import ColumnFold.Rendition
import ColumnFold.Slice
import ColumnFold.Tabs

/-!
# Folding a line

Folding divides a line by a layout and writes each slice as a fragment.  A fragment begins with the
sequences that restore the attributes in force before it, and ends with a reset if attributes are in
force after it and the line goes on.  A fragment that is narrower than the width it was cut for may
be padded.

* `FoldOptions` — everything about folding that does not depend on the line or the layout.
* `FoldOptions.render` — the fragments of slices.
* `FoldOptions.fold` — the fragments of a line.
-/

set_option autoImplicit false

namespace ColumnFold

/-- How lines are folded. -/
structure FoldOptions where
  /-- How wide ambiguous characters are. -/
  ambiguity : Ambiguity
  /-- Where lines may be cut. -/
  breaking : Breaking
  /-- Whether fragments are padded to the width that they were cut for. -/
  padding : Bool
  /-- What fragments are padded with, once for each column. -/
  filler : String
  /-- Whether tabs are expanded first. -/
  expandTabs : Bool
  /-- How tabs are expanded. -/
  tabs : Tabs
deriving DecidableEq

namespace FoldOptions

/-- The options that hold unless others are asked for. -/
def default : FoldOptions where
  ambiguity := .narrow
  breaking := ⟨.anywhere, .free, 2, 2⟩
  padding := false
  filler := " "
  expandTabs := false
  tabs := ⟨8, " ", " "⟩

instance : Inhabited FoldOptions := ⟨default⟩

/-- The cells of a text. -/
def cells (o : FoldOptions) (t : Text) : List Cell := Cell.ofText o.ambiguity t

/-- The columns that a text takes. -/
def columns (o : FoldOptions) (t : Text) : Nat := Cell.columns (o.cells t)

/-- The padding of a slice. -/
def pad (o : FoldOptions) (s : Slice) : Text :=
  match s.width with
  | some width =>
    if o.padding then
      Repetition.times (width - Cell.columns s.cells) (Text.ofString o.filler)
    else []
  | none => []

/-- The reset at the end of a slice after which the attributes `after` are in force. -/
def closing (after : Rendition) (s : Slice) : Text :=
  if s.more ∧ after ≠ [] then Rendition.reset else []

/-- The fragments of slices, where `active` is in force before the first one. -/
def render (o : FoldOptions) (active : Rendition) : List Slice → List Text
  | [] => []
  | s :: slices =>
    let after := active.after s.cells
    (active.flatten ++ Cell.spell s.cells ++ closing after s ++ o.pad s) :: render o after slices

/-- The line as it is cut: with tabs expanded, if they are to be. -/
def prepare (o : FoldOptions) (line : Text) : Text :=
  if o.expandTabs then o.tabs.expand o.ambiguity line else line

/-- The slices of a line. -/
def slices (o : FoldOptions) (layout : Layout) (line : Text) : List Slice :=
  layout.slices o.breaking (o.cells (o.prepare line))

/-- The fragments of a line. -/
def fold (o : FoldOptions) (layout : Layout) (line : Text) : List Text :=
  o.render [] (o.slices layout line)

/-- A line has a symbol as it is cut if it has it as it is read, unless the symbol is a tab or may
come from one. -/
theorem mem_prepare {o : FoldOptions} {s : Symbol} (htab : s ≠ .tab)
    (htabs : o.expandTabs = true →
      s ∉ Text.ofString o.tabs.head ∧ s ∉ Text.ofString o.tabs.space) (line : Text) :
    s ∈ o.prepare line ↔ s ∈ line := by
  rw [prepare]
  split
  · rename_i he
    rw [Tabs.expand, Tabs.mem_expandFrom htab (htabs he).1 (htabs he).2, Cell.spell_ofText]
  · exact Iff.rfl

theorem length_render (o : FoldOptions) (active : Rendition) (slices : List Slice) :
    (o.render active slices).length = slices.length := by
  induction slices generalizing active with
  | nil => rfl
  | cons s slices ih => simp [render, ih]

end FoldOptions
end ColumnFold
