import ColumnFold.Command.Flag
import ColumnFold.Command.Value
import ColumnFold.Text.Wrap

/-!
# Usage of the command

* `Usage.Error` — why a command line is refused.
* `Usage.Error.report` — what the user is told about it.
* `Usage.help`, `Usage.version` — what the command says about itself.
-/

set_option autoImplicit false

namespace ColumnFold
namespace Usage

/-- The two kinds of numbers that options take. -/
inductive NumberKind where
  /-- Numbers from one on. -/
  | positive
  /-- Numbers from zero on. -/
  | nonNegative
deriving DecidableEq

/-- What a kind of numbers is called in messages. -/
def NumberKind.title : NumberKind → String
  | .positive => "positive_int"
  | .nonNegative => "non_negative_int"

/-- What is wrong with the use of an option. -/
inductive Problem where
  /-- The value is missing. -/
  | expectsOne
  /-- All values are missing. -/
  | expectsSome
  /-- The option takes no value, but one is attached. -/
  | ignoredValue (value : String)
  /-- Another option excludes this one. -/
  | notAllowedWith (other : Flag)
  /-- The value is not one of the choices. -/
  | invalidChoice (value : String) (choices : List String)
  /-- The value does not spell an integer. -/
  | invalidNumber (kind : NumberKind) (value : String)
  /-- The value is an integer or a text, but is refused all the same. -/
  | refused (e : Value.Error)
deriving DecidableEq

/-- Why a command line is refused. -/
inductive Error where
  /-- An abbreviated option may stand for several ones. -/
  | ambiguous (word : String) (candidates : List String)
  /-- The option is misused. -/
  | option (flag : Flag) (problem : Problem)
  /-- No option or file takes these words. -/
  | unrecognized (words : List String)
deriving DecidableEq

/-- The complaint about the use of an option. -/
def Problem.message : Problem → String
  | .expectsOne => "expected one argument"
  | .expectsSome => "expected at least one argument"
  | .ignoredValue value => s!"ignored explicit argument {Quoted.quote value}"
  | .notAllowedWith other => s!"not allowed with argument {other.title}"
  | .invalidChoice value choices =>
    let listed := ", ".intercalate (choices.map Quoted.quote)
    s!"invalid choice: {Quoted.quote value} (choose from {listed})"
  | .invalidNumber kind value => s!"invalid {kind.title} value: {Quoted.quote value}"
  | .refused e => e.message

/-- The complaint about a command line. -/
def Error.message : Error → String
  | .ambiguous word candidates =>
    let listed := ", ".intercalate candidates
    s!"ambiguous option: {word} could match {listed}"
  | .option flag problem => s!"argument {flag.title}: {problem.message}"
  | .unrecognized words =>
    let listed := " ".intercalate words
    s!"unrecognized arguments: {listed}"

/-- How many characters a line of text has at most. -/
def lineWidth : Nat := 78

/-- The usage line for a program of the given name, which is shown without more than one empty line
at a time. -/
def line (name : String) : String :=
  let name := String.ofList (Wrap.closeUp name.toList)
  s!"usage: {name} [-nsx] [-p] [-w width[,width...]] [--colrm start [end ...]] [file ...]\n"

/-- What the user of the program is told about a refused command line. -/
def Error.report (name : String) (e : Error) : String :=
  line name ++ s!"{name}: error: {e.message}\n"

/-- The version of the program, as a paragraph. -/
def version (name : String) : String :=
  Wrap.paragraph lineWidth (by decide) s!"{name} 1.0" ++ "\n"

/-- The help of the program, with the width that holds if none is given. -/
def help (name : String) (width : Int) : String :=
  line name ++ "\n".intercalate [
    "",
    "Fold or cut lines into fields of the given visual widths.",
    "",
    "positional arguments:",
    "  files                 Files to process. Reads from stdin if none are given.",
    "",
    "options:",
    "  -h, --help            show this help message and exit",
    "  -V, --version         show program's version number and exit",
    "  -w SPEC, --width SPEC",
    "                        Comma-separated field widths; may be repeated",
    s!"                        (default: {width}).",
    "  --colrm COL [COL ...]",
    "                        Remove columns like colrm(1): start [end [start [end",
    "                        ...]]].",
    "  -n                    Join fields with nothing; same as --separate ''.",
    "  --separate STRING     Join fields with STRING; \\n and \\\\ are recognized",
    "                        (default: newline).",
    "  -p, --paragraph       Print an empty line after each line; repeat for more.",
    "  --boundary \x7bnone,word\x7d",
    "                        Avoid cutting in the middle of a word.",
    "  --padding             Pad fields to their width.",
    "  --padchar PADCHAR     Character used for padding (default: space).",
    "  --ambiguous \x7bnarrow,wide\x7d",
    "                        Width of East Asian ambiguous characters.",
    "  --linebreak \x7bnone,all\x7d",
    "                        Apply line-break rules for closing and opening",
    "                        punctuation.",
    "  --runin RUNIN         Columns a field may grow to take in closing",
    "                        punctuation.",
    "  --runout RUNOUT       Columns a field may shrink to push out opening",
    "                        punctuation.",
    "  -s, --smart           Same as --boundary=word --linebreak=all.",
    "  -x, --expand          Expand tabs before folding.",
    "  --tabstop TABSTOP     Tab width (default: 8).",
    "  --tabhead TABHEAD     Character for the first column of an expanded tab.",
    "  --tabspace TABSPACE   Character for the rest of an expanded tab.",
    ""]

end Usage
end ColumnFold
