/-!
# Plans

A list of signed widths says what to do with every line.  A single width is applied again and again
until the line is used up, unless it is negative, which leaves the line whole.  Several widths cut
off one field each; the fields of negative widths are discarded.  The last width is different: if
it is negative, the last field is all that is left of the line, and it is kept.

* `Layout` — how a line is divided.
* `Plan` — a layout, and which of the fragments are kept.
* `Plan.ofWidths` — the plan for a list of signed widths.
* `Plan.select` — the fragments that are kept.
-/

set_option autoImplicit false

namespace ColumnFold

/-- How a line is divided into fragments. -/
inductive Layout where
  /-- One width, applied until the line is used up. -/
  | every (width : Int)
  /-- One field for each width; the last field takes the rest of the line if `takeRest` is set. -/
  | fields (widths : List Int) (takeRest : Bool)
deriving DecidableEq

/-- The widths of a layout. -/
def Layout.widths : Layout → List Int
  | .every width => [width]
  | .fields widths _ => widths

/-- How a line is divided, and which of its fragments are kept. -/
structure Plan where
  /-- How a line is divided. -/
  layout : Layout
  /-- For each fragment, whether it is kept; without a mask every fragment is. -/
  keep : Option (List Bool)
deriving DecidableEq

namespace Plan

/-- The plan for a single width. -/
def single (width : Int) : Plan :=
  if width < 0 then ⟨.fields [0] true, none⟩ else ⟨.every width, none⟩

/-- The plan for several signed widths. -/
def several (widths : List Int) : Plan :=
  let last := widths.getLastD 0
  { layout := .fields (widths.dropLast.map (fun w => (w.natAbs : Int)) ++ [max last 0]) (last < 0)
    keep := some (widths.dropLast.map (fun w => decide (0 ≤ w)) ++ [true]) }

/-- The plan for a list of signed widths, or for the default width if there are none. -/
def ofWidths (default : Int) : List Int → Plan
  | [] => single default
  | [width] => single width
  | widths => several widths

/-- The fragments that a plan keeps; a fragment beyond the end of the line is simply absent. -/
def select {α : Type} (plan : Plan) (fragments : List α) : List α :=
  match plan.keep with
  | none => fragments
  | some keep => ((fragments.zip keep).filter (·.2)).map (·.1)

end Plan
end ColumnFold
