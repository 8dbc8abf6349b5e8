import ColumnFold.WidthList.Error

/-!
# Number ranges

A range `first:last:step:length` stands for the numbers from `first` to `last`, both included, that
are reached by steps of `step`, taking `length` consecutive numbers at every step.  Every element
may be left out: `first` is then 1, `last` is `first`, `step` is one towards `last`, and `length`
is 1.

* `Range` — a range whose step leads from its first number towards its last.
* `Range.numbers` — the numbers of a range.
* `Range.read` — the range that a text spells.
-/

set_option autoImplicit false

namespace ColumnFold
namespace WidthList

/-- A range of numbers. -/
structure Range where
  /-- The first number. -/
  first : Int
  /-- The bound that no number passes. -/
  last : Int
  /-- The distance from one group of numbers to the next. -/
  step : Int
  /-- How many consecutive numbers are taken at every step. -/
  length : Nat
  step_ne : step ≠ 0
  length_pos : 0 < length
  towards : last ≠ first → (0 < step ↔ first < last)
deriving DecidableEq

namespace Range

/-! ## The numbers of a range -/

/-- The `count` consecutive integers from `start` on in the direction `d`. -/
def consecutive (d start : Int) : Nat → List Int
  | 0 => []
  | count + 1 => start :: consecutive d (start + d) count

/-- The numbers from `start` on in the direction `d`, while at most `left` further integers may be
reached: `length` at a time, every `stride` integers. -/
def groups (d : Int) (stride length : Nat) (start : Int) (left : Nat) : List Int :=
  consecutive d start (min length (left + 1)) ++
    if 0 < stride ∧ stride ≤ left then groups d stride length (start + d * stride) (left - stride)
    else []
termination_by left

/-- The numbers of a range, in order. -/
def numbers (r : Range) : List Int :=
  groups r.step.sign r.step.natAbs r.length r.first (r.last - r.first).natAbs

/-! ## Reading a range -/

/-- Whether a text may be an element of a range: digits, perhaps after a minus sign, but not the
sign alone.  A line feed at the end is passed over. -/
def isElement (cs : List Char) : Bool :=
  cs != ['-'] &&
    match Numeral.chomp cs with
    | '-' :: ds => ds.all Unicode.isDigit
    | ds => ds.all Unicode.isDigit

/-- The value of an element, if it is not left out. -/
def element (cs : List Char) : Except Error (Option Int) :=
  if cs.isEmpty then .ok none
  else match Numeral.signed (Numeral.chomp cs) with
    | .ok n => .ok (some n)
    | .error e => .error (.number (String.ofList cs) e)

/-- The step of a range from `first` to `last`. -/
def stepFor (text : String) (first last : Int) (step : Option Int) :
    Except Error { s : Int // s ≠ 0 ∧ (last ≠ first → (0 < s ↔ first < last)) } :=
  match step with
  | none => if h : last < first then .ok ⟨-1, by omega⟩ else .ok ⟨1, by omega⟩
  | some s =>
    if hs : s = 0 then .error (.zeroStep text)
    else if hd : last ≠ first → (0 < s ↔ first < last) then .ok ⟨s, hs, hd⟩
    else if last < first then .error (.needsDecrement text)
    else .error (.needsIncrement text)

/-- How many numbers a range takes at every step. -/
def lengthFor (text : String) (length : Option Int) : Except Error { n : Nat // 0 < n } :=
  match length with
  | none => .ok ⟨1, by omega⟩
  | some n => if h : n < 1 then .error (.illegalLength text n) else .ok ⟨n.toNat, by omega⟩

/-- The range with the given elements, if its step and length are legal. -/
def ofElements (text : String) (first last step length : Option Int) : Except Error Range := do
  let first := first.getD 1
  let last := last.getD first
  let step ← stepFor text first last step
  let length ← lengthFor text length
  return ⟨first, last, step.1, length.1, step.2.1, length.2, step.2.2⟩

/-- The range that a text spells. -/
def read (body : List Char) : Except Error Range :=
  let text := String.ofList body
  let elements := Separated.fields ':' body
  if 4 < elements.length then .error (.tooManyElements text)
  else match elements.find? (!isElement ·) with
    | some e => .error (.invalidElement text (String.ofList e))
    | none => do
      let values ← elements.mapM element
      ofElements text (values.getD 0 none) (values.getD 1 none) (values.getD 2 none)
        (values.getD 3 none)

end Range
end WidthList
end ColumnFold
