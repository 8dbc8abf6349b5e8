import ColumnFold.Text.Symbol
import ColumnFold.Unicode.Columns
import ColumnFold.Unicode.Emoji
import ColumnFold.Unicode.Indic

/-!
# The columns of a text

The width of a text is not the sum of the widths of its characters: a joiner hides the character
after it, a variation selector changes the width of the character before it, two regional
indicators make one flag, a skin tone merges with its emoji, and a virama or a spacing mark widens
its base to two columns.

The scan keeps the columns of the symbols before the last base apart from those of the last base
itself, which may still change.  Its rules are those of the `wcwidth` library where the releases
0.5.3 to 0.9.4 agree, with the tables of version 15 of the Unicode standard.  A selector U+FE0E
narrows a wide base only if `hasTextPresentation` holds of it, in which release 0.7.0 differs.

* `Measure.columns?` — the columns of a text, `none` if it holds a control character.
* `Measure.columns` — the same, with no columns for a text that holds a control character.
-/

set_option autoImplicit false

namespace ColumnFold

open Unicode

namespace Measure

/-- What the symbols read so far say about the columns of a text. -/
structure State where
  /-- The columns before the last base. -/
  total : Int
  /-- The columns of the last base and its marks. -/
  cluster : Nat
  /-- The last base and its columns, while a mark may still change them. -/
  base : Option (Symbol × Nat)
  /-- Whether the last symbol was a virama. -/
  virama : Bool
  /-- The last symbol that took columns. -/
  last : Option Symbol
  /-- Whether an odd number of regional indicators directly precedes. -/
  oddRegional : Bool
  /-- Whether the next symbol is hidden by a joiner. -/
  hidden : Bool
deriving DecidableEq

/-- The state before a text. -/
def State.start : State := ⟨0, 0, none, false, none, false, false⟩

/-- The columns of a symbol on its own; a stray byte takes one. -/
def symbolColumns? (a : Ambiguity) : Symbol → Option Nat
  | .char c => charColumns? a c
  | .raw _ => some 1

/-- Whether a base widens to two columns before U+FE0F. -/
def isPictureBase (s : Symbol) : Bool := s.isChar hasPicturePresentation

/-- Whether a base of two columns narrows to one before U+FE0E. -/
def isTextBase (base : Symbol × Nat) : Bool :=
  base.1.isChar hasTextPresentation && base.2 == 2

/-- Whether a skin tone merges with the symbol before it. -/
def takesSkinTone (s : Symbol) : Bool := s.isChar isPictograph || s.isChar isRegionalIndicator

/-- Counts a symbol that takes columns. -/
def addWide (st : State) (s : Symbol) (w : Nat) : State :=
  let st := if st.virama then { st with cluster := 2 }
    else { st with total := st.total + st.cluster, cluster := w }
  { st with base := some (s, w), last := some s, virama := false }

/-- Counts a symbol that takes no columns. -/
def addZero (st : State) (s : Symbol) : State :=
  if s.isChar isVirama then { st with virama := true }
  else if s.isChar isSpacingMark ∧ st.base.isSome then
    { st with cluster := 2, base := none, virama := false }
  else { st with virama := false }

/-- Counts a symbol by its own columns; a control character ends the scan. -/
def addSymbol (a : Ambiguity) (st : State) (s : Symbol) : Option State :=
  (symbolColumns? a s).map fun w => if w = 0 then addZero st s else addWide st s w

/-- Counts a symbol that no joiner hides. -/
def addVisible (a : Ambiguity) (st : State) (s : Symbol) : Option State :=
  if s = .char '\u200d' then
    if st.virama then some st
    else some { st with hidden := true, base := st.base.map fun b => (b.1, 0) }
  else if s.isChar isRegionalIndicator ∧ st.oddRegional then some { st with last := some s }
  else if s.isChar isSkinTone ∧ st.last.any takesSkinTone then some st
  else match s, st.base with
    | .char '\ufe0f', some base =>
      some { st with
        cluster := if isPictureBase base.1 then 2 else st.cluster
        base := none }
    | .char '\ufe0e', some base =>
      some { st with
        total := if isTextBase base then st.total - 1 else st.total
        base := none }
    | _, _ => addSymbol a st s

/-- The state after one more symbol; none if it is a control character. -/
def step (a : Ambiguity) (st : State) (s : Symbol) : Option State :=
  (if st.hidden then some { st with hidden := false } else addVisible a st s).map fun st' =>
    { st' with oddRegional := s.isChar isRegionalIndicator && !st.oddRegional }

/-- The columns of a text; none if it holds a control character. -/
def columns? (a : Ambiguity) (t : Text) : Option Int :=
  (t.foldlM (step a) State.start).map fun st => st.total + st.cluster

/-- The columns of a text, where a control character leaves it without any. -/
def columns (a : Ambiguity) (t : Text) : Nat := ((columns? a t).getD 0).toNat

end Measure
end ColumnFold
