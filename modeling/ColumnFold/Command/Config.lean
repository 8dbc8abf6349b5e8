import ColumnFold.ColumnPairs
import ColumnFold.Command.Separator
import ColumnFold.Command.Settings
import ColumnFold.Command.WidthWords
import ColumnFold.WidthList.Token

/-!
# Configuration

The command comes in two modes.  To fold, it cuts lines at a width of 72 unless told otherwise; to
expand, it leaves lines whole unless told otherwise, and expands tabs.  The configuration is all
that is needed to process a line, and is fixed before the first line is read.  Blank width lists and
a blank separator leave nothing to process lines with; other blanks are passed on.

* `Program` — the name and mode of the command.
* `Config` — how every line is processed, and which files hold the lines.
* `Config.ofSettings` — the configuration that the settings ask for.
* `Config.settings` — the settings for the words of a command line.
-/

set_option autoImplicit false

namespace ColumnFold

/-- What the command does if it is not told otherwise. -/
inductive Mode where
  /-- Cut lines at the default width. -/
  | fold
  /-- Expand tabs and leave lines whole. -/
  | expand
deriving DecidableEq

/-- The width that is used if none is given. -/
def Mode.defaultWidth : Mode → Int
  | .fold => 72
  | .expand => -1

/-- The command under a name. -/
structure Program where
  /-- What the command is called in messages. -/
  name : String
  /-- What it does if it is not told otherwise. -/
  mode : Mode
deriving DecidableEq

namespace Program

/-- The command that expands tabs. -/
def expander : Program := ⟨"ansiexpand", .expand⟩

/-- The last component of a path. -/
def baseName (path : String) : String :=
  String.ofList ((Separated.fields '/' path.toList).getLastD [])

/-- The command at a path: it expands tabs if its name begins so. -/
def ofPath (path : String) : Program :=
  if expander.name.toList.isPrefixOf (baseName path).toList then expander
  else ⟨baseName path, .fold⟩

end Program

/-- How every line is processed, and which files hold the lines. -/
structure Config where
  /-- How lines are divided, and which fragments are kept. -/
  plan : Plan
  /-- What stands between the fragments. -/
  separator : String
  /-- How many empty lines follow each line. -/
  paragraph : Nat
  /-- How lines are folded. -/
  choices : FoldChoices
  /-- The files to process. -/
  files : List String
deriving DecidableEq

namespace Config

/-- Why there is no configuration for legal options. -/
inductive Error where
  /-- A width list is refused. -/
  | widths (e : WidthList.Error)
  /-- The columns to remove are refused. -/
  | columns (e : ColumnPairs.Error)
  /-- A width list was left blank. -/
  | blankWidths
  /-- The separator was left blank. -/
  | blankSeparator
deriving DecidableEq

/-- The complaint about widths, columns or blanks. -/
def Error.message : Error → String
  | .widths e => e.message
  | .columns e => e.message
  | .blankWidths => "'list' object has no attribute 'split'"
  | .blankSeparator => "expected string or bytes-like object, got 'list'"

/-- Whether widths or columns are refused for what they say. -/
def Error.isRefusal : Error → Bool
  | .widths (.repetition _) => false
  | .widths _ => true
  | .columns _ => true
  | .blankWidths => false
  | .blankSeparator => false

/-- How lines are folded, if words and punctuation may have been made to matter. -/
def foldChoices (s : Settings) : FoldChoices :=
  if s.smart then { s.choices with boundary := some .word, kinsoku := some .strict }
  else s.choices

/-- The signed widths of width lists, some of which may be blank. -/
def listedWidths : List (Option String) → Except Error (List Int)
  | [] => .ok []
  | none :: _ => .error .blankWidths
  | some list :: lists =>
    match WidthList.read [list] with
    | .error e => .error (.widths e)
    | .ok widths => do
      let others ← listedWidths lists
      return widths ++ others

/-- The signed widths that the settings ask for, and the separator if none is asked for. -/
def signedWidths (s : Settings) : Except Error (List Int × String) :=
  match s.columns with
  | some (c :: cs) =>
    match ColumnPairs.widths (c :: cs) with
    | .ok widths => .ok (widths, "")
    | .error e => .error (.columns e)
  | _ => do
    let widths ← listedWidths s.widths
    return (widths, "\n")

/-- The separator that the settings ask for. -/
def separatorOr (default : String) (s : Settings) : Except Error String :=
  match s.separator with
  | none => .ok default
  | some none => .error .blankSeparator
  | some (some word) => .ok (Separator.ofWord word)

/-- The configuration that the settings ask for. -/
def ofSettings (mode : Mode) (s : Settings) : Except Error Config := do
  let (widths, default) ← signedWidths s
  let separator ← separatorOr default s
  return {
    plan := Plan.ofWidths mode.defaultWidth widths
    separator
    paragraph := s.paragraph
    choices := foldChoices s
    files := s.files }

/-- The fold options of a configuration. -/
def options (c : Config) : FoldOptions := c.choices.options

/-- The settings for the words of a command line. -/
def settings (mode : Mode) (args : List String) : Except Stop Settings :=
  Settings.read (decide (mode = .expand)) (WidthWords.attach args)

end Config
end ColumnFold
