import ColumnFold.Repetition

/-!
# Faults

Folding a line breaks off where something that it needs was left blank, where the tab stops lie zero
columns apart, or where columns are to be filled that nobody can count.

* `Fault` — why folding breaks off.
* `Fault.message` — the text of the complaint.
-/

set_option autoImplicit false

namespace ColumnFold

/-- Why the folding of a line breaks off. -/
inductive Fault where
  /-- The tab stops lie zero columns apart. -/
  | zeroStop
  /-- The distance of the tab stops was left blank. -/
  | blankStop
  /-- The first column of a tab was left blank. -/
  | blankHead
  /-- The other columns of a tab were left blank. -/
  | blankSpace
  /-- All columns of a tab were left blank; `place` cells stand before the first tab. -/
  | blankTab (place : Nat)
  /-- A limit for punctuation was left blank. -/
  | blankLimit
  /-- What fragments are padded with was left blank. -/
  | blankFiller
  /-- Columns cannot be filled. -/
  | repetition (e : Repetition.Error)
deriving DecidableEq

/-- The complaint about a line that cannot be folded. -/
def Fault.message : Fault → String
  | .zeroStop => "integer modulo by zero"
  | .blankStop => "unsupported operand type(s) for %: 'int' and 'list'"
  | .blankHead => "can only concatenate list (not \"str\") to list"
  | .blankSpace => "can only concatenate str (not \"list\") to str"
  | .blankTab place => s!"sequence item {place}: expected str instance, list found"
  | .blankLimit => "'>' not supported between instances of 'int' and 'list'"
  | .blankFiller => "can only concatenate str (not \"list\") to str"
  | .repetition e => e.message

end ColumnFold
