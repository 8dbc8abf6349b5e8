/-!
# Repetition

A list may be repeated: a text that fills columns, or the numbers of a range.  There are limits to
how often, to how long a text may get, and to memory; a negative count gives nothing.

* `Repetition.times` — a list, repeated.
* `Repetition.isCountable` — whether a count is within the limit.
* `Repetition.error?`, `Repetition.textError?` — what is wrong with the repetition of a list, or of
  a text.
-/

set_option autoImplicit false

namespace ColumnFold
namespace Repetition

/-- The bound that counts and lengths stay below: the 63rd power of two. -/
def limit : Nat := 0x8000000000000000

/-- The length from which on nothing fits into memory: the 40th power of two. -/
def memoryLimit : Nat := 0x10000000000

/-- Why a list cannot be repeated. -/
inductive Error where
  /-- The count is out of range. -/
  | uncountable
  /-- The result is longer than any text. -/
  | tooLong
  /-- The result does not fit into memory. -/
  | tooLarge
deriving DecidableEq

/-- The complaint about a repetition. -/
def Error.message : Error → String
  | .uncountable => "cannot fit 'int' into an index-sized integer"
  | .tooLong => "repeated string is too long"
  | .tooLarge => ""

/-- Whether a count is in range. -/
def isCountable (n : Int) : Bool := decide (-(limit : Int) ≤ n ∧ n < limit)

/-- What is wrong with repeating a list of the given length `n` times. -/
def error? (length : Nat) (n : Int) : Option Error :=
  if !isCountable n then some .uncountable
  else if (memoryLimit : Int) ≤ length * n then some .tooLarge
  else none

/-- What is wrong with repeating a text of the given length `n` times. -/
def textError? (length : Nat) (n : Int) : Option Error :=
  if isCountable n && decide ((limit : Int) ≤ length * n) then some .tooLong else error? length n

/-- A list, `n` times over.  An empty list is not repeated, however large the count. -/
def times {α : Type} (n : Int) (xs : List α) : List α :=
  if xs.isEmpty then [] else (List.replicate n.toNat xs).flatten

theorem times_eq {α : Type} (n : Int) (xs : List α) :
    times n xs = (List.replicate n.toNat xs).flatten := by
  cases xs with
  | nil => simp [times]
  | cons x xs => rfl

end Repetition
end ColumnFold
