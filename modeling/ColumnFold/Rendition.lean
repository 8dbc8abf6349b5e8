import ColumnFold.Cell
import ColumnFold.Text.Separated
import ColumnFold.Unicode.Decimal

/-!
# Attributes in force

Colours and other attributes of a terminal are set by control sequences that end in `m`, with
parameters separated by semicolons.  An empty or zero first parameter resets all attributes before
the others are set.  A rendition is the list of sequences that bring a terminal from its default
attributes to those in force.

* `Rendition.parameters?` — the parameters of a sequence that sets attributes.
* `Rendition.apply` — the rendition after an escape sequence.
* `Rendition.after` — the rendition after some cells.
-/

set_option autoImplicit false

namespace ColumnFold

/-- The sequences that set the attributes in force, in order. -/
abbrev Rendition := List Text

namespace Rendition

/-- Whether a symbol may stand among the parameters of a sequence that sets attributes. -/
def isParameterSymbol (s : Symbol) : Bool :=
  s.isChar fun c => Unicode.isDigit c || c == ';' || c == ':'

/-- The parameters of a sequence that sets attributes. -/
def parameters? : Text → Option (List Text)
  | .char '\x1b' :: .char '[' :: t =>
    if t.getLast? = some (.char 'm') ∧ t.dropLast.all isParameterSymbol then
      some (Separated.fields (.char ';') t.dropLast)
    else none
  | _ => none

/-- Whether parameters begin with a reset. -/
def isReset (parameters : List Text) : Bool :=
  match parameters.head? with
  | some [] => true
  | some [.char '0'] => true
  | _ => false

/-- The rendition after the escape sequence `seq`. -/
def apply (active : Rendition) (seq : Text) : Rendition :=
  match parameters? seq with
  | none => active
  | some parameters =>
    if isReset parameters then if 1 < parameters.length then [seq] else []
    else active ++ [seq]

/-- The rendition after a cell. -/
def step (active : Rendition) : Cell → Rendition
  | .glyph .. => active
  | .escape body => active.apply (.esc :: body)

/-- The rendition after some cells. -/
def after (active : Rendition) (cells : List Cell) : Rendition := cells.foldl step active

@[simp] theorem after_cons (active : Rendition) (c : Cell) (cells : List Cell) :
    active.after (c :: cells) = (active.step c).after cells := rfl

theorem after_append (active : Rendition) (xs ys : List Cell) :
    active.after (xs ++ ys) = (active.after xs).after ys :=
  List.foldl_append

/-- The sequence that resets all attributes. -/
def reset : Text := [.esc, .char '[', .char 'm']

end Rendition
end ColumnFold
