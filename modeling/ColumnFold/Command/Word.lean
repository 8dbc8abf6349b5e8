import ColumnFold.Command.Usage
import ColumnFold.Numeral

/-!
# Words of a command line

Before any option is used, every word is read by itself, as an option or as an operand.  A word that
begins with a dash is an option if it is the name of one, perhaps with a value attached after an
equals sign, if it abbreviates a long name, or if it begins with a short name.  Otherwise it is an
operand if it is a lone dash, a negative number, or holds a space.  The word `--` makes operands of
all words after it.

* `Word` — an option, an operand, or neither.
* `Word.read` — what a single word is.
* `Word.readAll` — what the words of a command line are.
-/

set_option autoImplicit false

namespace ColumnFold

/-- A word of a command line. -/
inductive Word where
  /-- A value or the name of a file. -/
  | operand (text : String)
  /-- An option by its short or long name, and the value attached to it. -/
  | option (flag : Flag) (long : Bool) (attached : Option (List Char))
  /-- A word that looks like an option but is none. -/
  | unknown (text : String)
  /-- The word `--`. -/
  | separator
deriving DecidableEq

namespace Word

/-- Whether what follows a dash makes a negative number, perhaps with decimals. -/
def isUnsigned (cs : List Char) : Bool :=
  match Separated.fields '.' (Numeral.chomp cs) with
  | [whole] => !whole.isEmpty && whole.all Unicode.isDigit
  | [whole, decimals] =>
    whole.all Unicode.isDigit && !decimals.isEmpty && decimals.all Unicode.isDigit
  | _ => false

/-- A word cut at its first equals sign. -/
def splitValue (cs : List Char) : List Char × Option (List Char) :=
  match cs.dropWhile (· != '=') with
  | [] => (cs, none)
  | _ :: value => (cs.takeWhile (· != '='), some value)

/-- The names that an option word may stand for, if it is not itself a name. -/
def candidates (cs : List Char) : List (String × Flag × Option (List Char)) :=
  match cs with
  | '-' :: '-' :: _ =>
    let (name, value) := splitValue cs
    (Flag.table.filter fun p => name.isPrefixOf p.1.toList).map fun p => (p.1, p.2, value)
  | '-' :: c :: value =>
    let name := String.ofList ['-', c]
    (Flag.table.filter fun p => p.1 == name).map fun p => (p.1, p.2, some value)
  | _ => []

/-- The option that a word names, with what is attached to it after an equals sign. -/
def named? (cs : List Char) : Option Word :=
  match Flag.ofName? (String.ofList cs) with
  | some flag => some (.option flag (Flag.isLong (String.ofList cs)) none)
  | none =>
    match splitValue cs with
    | (_, none) => none
    | (name, some value) =>
      (Flag.ofName? (String.ofList name)).map fun flag =>
        .option flag (Flag.isLong (String.ofList name)) (some value)

/-- What a word that begins with a dash and is not the name of an option stands for. -/
def guess (cs : List Char) : Except Usage.Error Word :=
  match candidates cs with
  | [] =>
    if isUnsigned cs.tail || cs.contains ' ' then .ok (.operand (String.ofList cs))
    else .ok (.unknown (String.ofList cs))
  | [(name, flag, value)] => .ok (.option flag (Flag.isLong name) value)
  | several => .error (.ambiguous (String.ofList cs) (several.map (·.1)))

/-- What a single word is. -/
def read (word : String) : Except Usage.Error Word :=
  match word.toList with
  | '-' :: c :: cs =>
    match named? ('-' :: c :: cs) with
    | some w => .ok w
    | none => guess ('-' :: c :: cs)
  | _ => .ok (.operand word)

/-- What the words of a command line are. -/
def readAll : List String → Except Usage.Error (List Word)
  | [] => .ok []
  | word :: words =>
    if word = "--" then .ok (.separator :: words.map .operand)
    else do
      let w ← read word
      let ws ← readAll words
      return w :: ws

/-- The operands before the first word of another kind. -/
def operandsAhead : List Word → List String
  | .operand text :: words => text :: operandsAhead words
  | _ => []

end Word
end ColumnFold
