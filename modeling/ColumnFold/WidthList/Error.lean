import ColumnFold.Numeral
import ColumnFold.Repetition

/-!
# What can be wrong with a width list

* `WidthList.Error` — the causes for which a token of a width list is refused.
* `WidthList.Error.message` — the text of the complaint.
-/

set_option autoImplicit false

namespace ColumnFold
namespace WidthList

/-- Why a token of a width list is refused. -/
inductive Error where
  /-- The token is neither empty, nor an integer, nor a range. -/
  | malformed (token : String)
  /-- A range has more than four elements. -/
  | tooManyElements (range : String)
  /-- An element of a range is not an integer. -/
  | invalidElement (range element : String)
  /-- A text in the place of a number gives none. -/
  | number (text : String) (e : Numeral.Error)
  /-- The step of a range is zero. -/
  | zeroStep (range : String)
  /-- A range descends, but its step does not. -/
  | needsDecrement (range : String)
  /-- A range ascends, but its step does not. -/
  | needsIncrement (range : String)
  /-- A range takes fewer than one number at every step. -/
  | illegalLength (range : String) (length : Int)
  /-- A range is repeated too often. -/
  | repetition (e : Repetition.Error)
deriving DecidableEq

/-- The complaint about a refused token. -/
def Error.message : Error → String
  | .malformed token => s!"{token}: format error"
  | .tooManyElements range => s!"{range}: too many range elements"
  | .invalidElement range element => s!"{range}: invalid range element '{element}'"
  | .number text e => e.message text
  | .zeroStep range => s!"{range}: illegal step value of zero"
  | .needsDecrement range => s!"{range}: needs negative decrement"
  | .needsIncrement range => s!"{range}: needs positive increment"
  | .illegalLength range length => s!"{range}: illegal length value '{length}'"
  | .repetition e => e.message

end WidthList
end ColumnFold
