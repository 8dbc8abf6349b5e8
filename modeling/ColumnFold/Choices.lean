import ColumnFold.Fault
import ColumnFold.Fold

/-!
# Choices

What is chosen for folding may be left blank.  A blank choice does no harm unless something depends
on it; folding then breaks off.  So there are two answers for a line: the fragments that the choices
give, with blanks filled in somehow, and the fault, if there is one, because of which these
fragments do not count.

* `FoldChoices` — what is chosen for folding.
* `FoldChoices.options` — the fold options that are chosen.
* `FoldChoices.fault?` — the first fault of a line.
* `FoldOptions.choices` — the choices that leave nothing blank.
-/

set_option autoImplicit false

namespace ColumnFold

/-- What is chosen for folding; a choice is `none` if it was left blank. -/
structure FoldChoices where
  /-- How wide ambiguous characters are. -/
  ambiguity : Option Ambiguity
  /-- Whether a cut may fall inside a word. -/
  boundary : Option Boundary
  /-- Whether punctuation moves a cut. -/
  kinsoku : Option Kinsoku
  /-- How many columns of closing punctuation a field may take in. -/
  runIn : Option Int
  /-- How many columns of opening punctuation a field may give up. -/
  runOut : Option Int
  /-- Whether fragments are padded. -/
  padding : Bool
  /-- What fragments are padded with. -/
  filler : Option String
  /-- Whether tabs are expanded. -/
  expandTabs : Bool
  /-- The distance between tab stops. -/
  tabStop : Option Int
  /-- What the first column of a tab shows. -/
  tabHead : Option String
  /-- What each other column of a tab shows. -/
  tabSpace : Option String
deriving DecidableEq

/-- The choices that leave nothing blank. -/
def FoldOptions.choices (o : FoldOptions) : FoldChoices where
  ambiguity := some o.ambiguity
  boundary := some o.breaking.boundary
  kinsoku := some o.breaking.kinsoku
  runIn := some o.breaking.runIn
  runOut := some o.breaking.runOut
  padding := o.padding
  filler := some o.filler
  expandTabs := o.expandTabs
  tabStop := some o.tabs.stop
  tabHead := some o.tabs.head
  tabSpace := some o.tabs.space

namespace FoldChoices

/-- The fold options that are chosen.  A blank choice of a rule stands for no rule. -/
def options (c : FoldChoices) : FoldOptions where
  ambiguity := c.ambiguity.getD .narrow
  breaking :=
    { boundary := c.boundary.getD .anywhere
      kinsoku := c.kinsoku.getD .free
      runIn := c.runIn.getD 0
      runOut := c.runOut.getD 0 }
  padding := c.padding
  filler := c.filler.getD ""
  expandTabs := c.expandTabs
  tabs := ⟨c.tabStop.getD 1, c.tabHead.getD "", c.tabSpace.getD ""⟩

@[simp] theorem options_choices (o : FoldOptions) : o.choices.options = o := rfl

/-! ## Filling columns -/

/-- The fault in repeating a text that may be blank. -/
def repetitionFault? (text : Option String) (n : Int) : Option Fault :=
  (Repetition.textError? (text.getD "").length n).map .repetition

/-- The fault in expanding a tab that reaches over `n` columns.  If all of it is blank, the fault
shows only when the line is put together. -/
def fillFault? (c : FoldChoices) (n : Int) : Option Fault :=
  repetitionFault? c.tabSpace (n - 1) <|>
    match c.tabHead, c.tabSpace with
    | none, some _ => some .blankHead
    | some _, none => some .blankSpace
    | _, _ => none

/-- The first fault in expanding the tabs among cells that begin at the column `col`. -/
def tabFaultFrom? (c : FoldChoices) (col : Int) : List Cell → Option Fault
  | [] => none
  | cell :: cells =>
    if cell.isTab then
      match c.tabStop with
      | none => some .blankStop
      | some 0 => some .zeroStop
      | some _ =>
        let n := c.options.tabs.reach col
        c.fillFault? n <|> tabFaultFrom? c (col + n) cells
    else tabFaultFrom? c (col + cell.width) cells

/-- The first fault in expanding the tabs of a line. -/
def tabFault? (c : FoldChoices) (line : Text) : Option Fault :=
  let cells := c.options.cells line
  c.tabFaultFrom? 0 cells <|>
    if c.tabHead.isNone && c.tabSpace.isNone then (cells.findIdx? Cell.isTab).map .blankTab
    else none

/-- The fault in padding a slice that was cut for a width. -/
def padFault? (c : FoldChoices) (width : Int) (s : Slice) : Option Fault :=
  let n := width - Cell.columns s.cells
  if c.padding && decide (0 < n) then
    repetitionFault? c.filler n <|> if c.filler.isNone then some .blankFiller else none
  else none

/-! ## Moving a cut over punctuation -/

/-- Whether the first glyph after a cut is closing punctuation. -/
def beforeClosing (s : Split) : Bool := (s.rest.find? (!·.isEscape)).any Cell.isClosing

/-- Whether the last glyph before a cut is opening punctuation; the first cell does not count. -/
def afterOpening (s : Split) : Bool :=
  (s.taken.tail.reverse.find? (!·.isEscape)).any Cell.isOpening

/-- The fault in moving a cut over punctuation: a limit is needed only where there is some. -/
def moveFault? (c : FoldChoices) (s : Split) : Option Fault :=
  let moved := s.runIn c.options.breaking.runIn
  if c.runIn.isNone && beforeClosing s then some .blankLimit
  else if Cell.columns s.taken < Cell.columns moved.taken then none
  else if c.runOut.isNone && afterOpening moved then some .blankLimit
  else none

/-- The fault in cutting cells for a width. -/
def cutFault? (c : FoldChoices) (width : Int) (cells : List Cell) : Option Fault :=
  if c.runIn.isSome && c.runOut.isSome then none
  else if c.kinsoku ≠ some .strict ∨ width ≤ 0 then none
  else
    let s := Split.fit width cells
    if s.rest.isEmpty || Cell.columns s.taken == 0 then none
    else c.moveFault? (c.options.breaking.atWord s)

/-! ## Folding -/

/-- The first fault of slices that are taken from `cells` in turn. -/
def sliceFault? (c : FoldChoices) : List Slice → List Cell → Option Fault
  | [], _ => none
  | s :: slices, cells =>
    (s.width.bind fun width => c.cutFault? width cells <|> c.padFault? width s) <|>
      sliceFault? c slices (cells.drop s.cells.length)

/-- The first fault of a line. -/
def fault? (c : FoldChoices) (layout : Layout) (line : Text) : Option Fault :=
  (if c.expandTabs then c.tabFault? line else none) <|>
    c.sliceFault? (c.options.slices layout line) (c.options.cells (c.options.prepare line))

/-- Without padding, slices have no fault if no cut has one. -/
theorem sliceFault?_of_cutFault? {c : FoldChoices} (hp : c.padding = false)
    (hc : ∀ width cells, c.cutFault? width cells = none) (slices : List Slice)
    (cells : List Cell) : c.sliceFault? slices cells = none := by
  induction slices generalizing cells with
  | nil => rfl
  | cons s slices ih =>
    have hs :
        (s.width.bind fun width => c.cutFault? width cells <|> c.padFault? width s) = none := by
      cases s.width with
      | none => rfl
      | some width => simp [hc, padFault?, hp]
    rw [sliceFault?, hs, ih]
    rfl

theorem sliceFault?_eq_none {c : FoldChoices} (hp : c.padding = false)
    (hl : (c.runIn.isSome && c.runOut.isSome) = true) (slices : List Slice) (cells : List Cell) :
    c.sliceFault? slices cells = none :=
  sliceFault?_of_cutFault? hp (fun _ _ => if_pos hl) slices cells

/-- Without padding and tabs, no line has a fault if the limits for punctuation are given. -/
theorem fault?_eq_none {c : FoldChoices} (hp : c.padding = false) (he : c.expandTabs = false)
    (hl : (c.runIn.isSome && c.runOut.isSome) = true) (layout : Layout) (line : Text) :
    c.fault? layout line = none := by
  rw [fault?, he, sliceFault?_eq_none hp hl]
  rfl

theorem fault?_eq_none_of_ne_strict {c : FoldChoices} (hp : c.padding = false)
    (he : c.expandTabs = false) (hk : c.kinsoku ≠ some .strict) (layout : Layout) (line : Text) :
    c.fault? layout line = none := by
  have hcut : ∀ width cells, c.cutFault? width cells = none := fun width cells => by
    simp [cutFault?, hk]
  rw [fault?, he, sliceFault?_of_cutFault? hp hcut]
  rfl

/-- The fragments of a line, or its first fault. -/
def fold (c : FoldChoices) (layout : Layout) (line : Text) : Except Fault (List Text) :=
  match c.fault? layout line with
  | some fault => .error fault
  | none => .ok (c.options.fold layout line)

end FoldChoices
end ColumnFold
