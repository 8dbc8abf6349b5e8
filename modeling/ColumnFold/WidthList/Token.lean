import ColumnFold.WidthList.Range

/-!
# Tokens of a width list

A width list is written as tokens between commas.  A token is empty, an integer, or a range that
may be repeated: `4{3}` stands for `4,4,4`.

* `Token.classify` — what kind of token a text is.
* `Token.expand` — the integers that a token stands for.
* `Token.read` — the integers that a text between commas stands for.
* `WidthList.read` — the integers that the tokens of several arguments stand for.
-/

set_option autoImplicit false

namespace ColumnFold
namespace WidthList

/-- A token of a width list. -/
inductive Token where
  /-- Nothing between two commas. -/
  | empty
  /-- An integer. -/
  | integer (value : Int)
  /-- A text that may spell a range, and how often its numbers are repeated. -/
  | range (body : List Char) (times : Nat)
  /-- Any other text. -/
  | malformed (text : List Char)
deriving DecidableEq

namespace Token

/-- Whether a character may stand in a range. -/
def isRangeChar (c : Char) : Bool := Unicode.isDigit c || c == ':' || c == '-'

/-- Whether digits between braces, or nothing, follow the body of a range. -/
def isSuffix : List Char → Bool
  | [] => true
  | '\x7b' :: cs => cs.getLast? == some '\x7d' && Numeral.isDigits cs.dropLast
  | _ => false

/-- The number of repetitions that follows the body of a range. -/
def times : List Char → Except Numeral.Error Nat
  | [] => .ok 1
  | _ :: cs => Numeral.natural cs.dropLast

/-- Whether a text is a minus sign or none, and digits. -/
def isInteger : List Char → Bool
  | '-' :: cs => Numeral.isDigits cs
  | cs => Numeral.isDigits cs

/-- The kind of a token, if its numbers can be read.  A line feed at the end of an integer or range
is passed over. -/
def classify (cs : List Char) : Except Error Token :=
  let text := Numeral.chomp cs
  let body := text.takeWhile isRangeChar
  let suffix := text.dropWhile isRangeChar
  if cs.isEmpty then .ok .empty
  else if isInteger text then
    match Numeral.signed text with
    | .ok n => .ok (.integer n)
    | .error e => .error (.number (String.ofList cs) e)
  else if !body.isEmpty && isSuffix suffix then
    match times suffix with
    | .ok n => .ok (.range body n)
    | .error e => .error (.number (String.ofList cs) e)
  else .ok (.malformed cs)

/-- The integers that a token stands for; nothing at all stands for zero. -/
def expand : Token → Except Error (List Int)
  | .empty => .ok [0]
  | .integer n => .ok [n]
  | .range body times => do
    let r ← Range.read body
    let numbers := r.numbers
    match Repetition.error? numbers.length times with
    | some e => throw (.repetition e)
    | none => return Repetition.times times numbers
  | .malformed text => .error (.malformed (String.ofList text))

/-- The integers that a text between commas stands for. -/
def read (cs : List Char) : Except Error (List Int) := do
  let token ← classify cs
  token.expand

end Token

/-- The texts between the commas of several arguments, in order. -/
def tokens (args : List String) : List (List Char) :=
  args.flatMap fun arg => Separated.fields ',' arg.toList

/-- The integers that several arguments stand for, or what is wrong with the first token that
stands for none. -/
def read (args : List String) : Except Error (List Int) := do
  let lists ← (tokens args).mapM Token.read
  return lists.flatten

end WidthList
end ColumnFold
