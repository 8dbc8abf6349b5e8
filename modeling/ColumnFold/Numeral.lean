import ColumnFold.Text.Quoted
import ColumnFold.Text.Separated
import ColumnFold.Unicode.Blank
import ColumnFold.Unicode.Decimal

/-!
# Written integers

Integers are written in decimal digits of any script, and of these only a limited number is read.
Width lists admit digits and a minus sign only; option values also admit blanks around the number, a
plus sign, and single underscores between digits.

* `Numeral.natural` — the number that a run of digits spells.
* `Numeral.signed` — the integer that digits spell, perhaps after a minus sign.
* `Numeral.integer` — the integer that a text in the free form spells.
* `Numeral.chomp` — a text without one line feed at its end, which width lists pass over.
-/

set_option autoImplicit false

namespace ColumnFold
namespace Numeral

/-- Why a text gives no integer. -/
inductive Error where
  /-- The text does not spell an integer. -/
  | malformed
  /-- The integer has this many digits, which are more than are read. -/
  | tooManyDigits (digits : Nat)
deriving DecidableEq

/-- How many digits are read, leading zeros counted. -/
def digitLimit : Nat := 4300

/-- How much of a text that spells no integer is shown. -/
def excerptLength : Nat := 200

/-- The complaint about a text that gives no integer. -/
def Error.message (text : String) : Error → String
  | .malformed =>
    s!"invalid literal for int() with base 10: {Quoted.excerpt excerptLength text}"
  | .tooManyDigits digits =>
    s!"Exceeds the limit ({digitLimit} digits) for integer string conversion: " ++
      s!"value has {digits} digits; use sys.set_int_max_str_digits() to increase the limit"

/-! ## Digits alone -/

/-- The number that digits spell. -/
def value (digits : List Char) : Nat :=
  digits.foldl (fun n c => 10 * n + (Unicode.digit? c).getD 0) 0

/-- Whether a text is a run of digits. -/
def isDigits (cs : List Char) : Bool := !cs.isEmpty && cs.all Unicode.isDigit

/-- The number that a run of digits spells. -/
def natural (cs : List Char) : Except Error Nat :=
  if !isDigits cs then .error .malformed
  else if digitLimit < cs.length then .error (.tooManyDigits cs.length)
  else .ok (value cs)

/-- The integer that digits spell, perhaps after a minus sign. -/
def signed : List Char → Except Error Int
  | '-' :: cs => (natural cs).map fun n => -(n : Int)
  | cs => (natural cs).map Int.ofNat

/-- A text without one line feed at its end. -/
def chomp (cs : List Char) : List Char :=
  if cs.getLast? = some '\n' then cs.dropLast else cs

/-! ## The free form -/

/-- Whether a character may stand in a grouped number. -/
def isGroupChar (c : Char) : Bool := Unicode.isDigit c || c == '_'

/-- The digits with which a text begins, if single underscores at most stand between them; no digits
otherwise. -/
def leadingDigits (cs : List Char) : List Char :=
  let groups := Separated.fields '_' (cs.takeWhile isGroupChar)
  if groups.contains [] then [] else groups.flatten

/-- The number that digits spell, with single underscores between some of them.  The digits are
counted before the rest of the text is looked at. -/
def grouped (cs : List Char) : Except Error Nat :=
  let digits := leadingDigits cs
  if digitLimit < digits.length then .error (.tooManyDigits digits.length)
  else if digits.isEmpty || !cs.all isGroupChar then .error .malformed
  else .ok (value digits)

/-- A text without the blanks around it. -/
def trim (cs : List Char) : List Char :=
  ((cs.dropWhile Unicode.isBlank).reverse.dropWhile Unicode.isBlank).reverse

/-- The integer that a text spells in the free form. -/
def integer (cs : List Char) : Except Error Int :=
  match trim cs with
  | '-' :: cs => (grouped cs).map fun n => -(n : Int)
  | '+' :: cs => (grouped cs).map Int.ofNat
  | cs => (grouped cs).map Int.ofNat

/-- A text spells a natural number exactly if it is a run of digits, and not of too many. -/
theorem natural_eq_ok_iff {cs : List Char} {n : Nat} :
    natural cs = .ok n ↔ isDigits cs = true ∧ cs.length ≤ digitLimit ∧ value cs = n := by
  rw [natural.eq_def]
  split
  · simp_all
  · split
    · rename_i h
      simp only [reduceCtorEq, false_iff, not_and]
      intro _ hle
      omega
    · rename_i h hlt
      simp only [Except.ok.injEq]
      constructor
      · intro hv
        exact ⟨by simpa using h, by omega, hv⟩
      · exact fun hv => hv.2.2

end Numeral
end ColumnFold
