import ColumnFold.Measure
import ColumnFold.Numeral

/-!
# Option values

Some options take a number, and some take a character of one column.

* `Value.Error` — why a word is refused as the value of an option.
* `Value.positive`, `Value.nonNegative`, `Value.oneColumn` — the values that words spell.
-/

set_option autoImplicit false

namespace ColumnFold
namespace Value

/-- Why a word is refused as the value of an option. -/
inductive Error where
  /-- The word gives no integer. -/
  | number (word : String) (e : Numeral.Error)
  /-- The number is zero or negative. -/
  | notPositive (word : String)
  /-- The number is negative. -/
  | negative (word : String)
  /-- The word does not take exactly one column. -/
  | notOneColumn (word : String)
deriving DecidableEq

/-- The complaint about a refused value. -/
def Error.message : Error → String
  | .number word e => e.message word
  | .notPositive word => s!"illegal value '{word}', must be positive"
  | .negative word => s!"illegal value '{word}', must not be negative"
  | .notOneColumn word => s!"'{word}' is not a single-column character"

/-- The integer that a word spells. -/
def integer (word : String) : Except Error Int :=
  match Numeral.integer word.toList with
  | .ok n => .ok n
  | .error e => .error (.number word e)

/-- The positive integer that a word spells. -/
def positive (word : String) : Except Error Int := do
  let n ← integer word
  if n ≤ 0 then throw (.notPositive word) else return n

/-- The natural number that a word spells. -/
def nonNegative (word : String) : Except Error Int := do
  let n ← integer word
  if n < 0 then throw (.negative word) else return n

/-- The word itself, if it takes one column where ambiguous characters are narrow. -/
def oneColumn (word : String) : Except Error String :=
  if Measure.columns? .narrow (Text.ofString word) = some 1 then .ok word
  else .error (.notOneColumn word)

theorem pos_of_positive {word : String} {n : Int} (h : positive word = .ok n) : 0 < n := by
  rw [positive.eq_def] at h
  cases hi : integer word with
  | error e => rw [hi] at h; cases h
  | ok m =>
    rw [hi] at h
    change (if m ≤ 0 then _ else _) = _ at h
    split at h
    · cases h
    · cases h
      omega

end Value
end ColumnFold
