/-!
# Options

The options of the command, their names, and how many values each takes.

* `Flag` — the options, in the order in which they are defined.
* `Flag.names` — the names of an option; `Flag.ofName?` finds an option by a name.
* `Flag.arity` — how many values an option takes.
-/

set_option autoImplicit false

namespace ColumnFold

/-- An option of the command. -/
inductive Flag where
  /-- Explain the command. -/
  | help
  /-- Tell the version. -/
  | version
  /-- Add a width list. -/
  | width
  /-- Name columns to remove. -/
  | columns
  /-- Join fragments with nothing. -/
  | noSeparator
  /-- Join fragments with a text. -/
  | separator
  /-- Write an empty line after each line. -/
  | paragraph
  /-- Choose whether words may be split. -/
  | boundary
  /-- Pad fragments. -/
  | padding
  /-- Choose what fragments are padded with. -/
  | filler
  /-- Choose the width of ambiguous characters. -/
  | ambiguity
  /-- Choose whether punctuation matters. -/
  | kinsoku
  /-- Limit the closing punctuation taken in. -/
  | runIn
  /-- Limit the opening punctuation given up. -/
  | runOut
  /-- Let both words and punctuation matter. -/
  | smart
  /-- Expand tabs. -/
  | expand
  /-- Choose the distance of tab stops. -/
  | tabStop
  /-- Choose the first column of a tab. -/
  | tabHead
  /-- Choose the other columns of a tab. -/
  | tabSpace
deriving DecidableEq

/-- How many values an option takes. -/
inductive Arity where
  /-- The option takes no value. -/
  | none
  /-- The option takes one value. -/
  | one
  /-- The option takes one value or more. -/
  | some
deriving DecidableEq

namespace Flag

/-- All options, in the order in which they are defined. -/
def all : List Flag :=
  [.help, .version, .width, .columns, .noSeparator, .separator, .paragraph, .boundary, .padding,
   .filler, .ambiguity, .kinsoku, .runIn, .runOut, .smart, .expand, .tabStop, .tabHead, .tabSpace]

/-- The names of an option: short ones have one letter after one dash. -/
def names : Flag → List String
  | .help => ["-h", "--help"]
  | .version => ["-V", "--version"]
  | .width => ["-w", "--width"]
  | .columns => ["--colrm"]
  | .noSeparator => ["-n"]
  | .separator => ["--separate"]
  | .paragraph => ["-p", "--paragraph"]
  | .boundary => ["--boundary"]
  | .padding => ["--padding"]
  | .filler => ["--padchar"]
  | .ambiguity => ["--ambiguous"]
  | .kinsoku => ["--linebreak"]
  | .runIn => ["--runin"]
  | .runOut => ["--runout"]
  | .smart => ["-s", "--smart"]
  | .expand => ["-x", "--expand"]
  | .tabStop => ["--tabstop"]
  | .tabHead => ["--tabhead"]
  | .tabSpace => ["--tabspace"]

/-- How many values an option takes. -/
def arity : Flag → Arity
  | .help | .version | .noSeparator | .paragraph | .padding | .smart | .expand => .none
  | .columns => .some
  | .width | .separator | .boundary | .filler | .ambiguity | .kinsoku | .runIn | .runOut
  | .tabStop | .tabHead | .tabSpace => .one

/-- What an option is called in messages: all its names. -/
def title (f : Flag) : String := "/".intercalate f.names

/-- Every name, with the option that it names. -/
def table : List (String × Flag) := all.flatMap fun f => f.names.map fun name => (name, f)

/-- The option with the given name. -/
def ofName? (name : String) : Option Flag := (table.find? (·.1 == name)).map (·.2)

/-- The option with the given letter as its short name. -/
def ofLetter? (c : Char) : Option Flag := ofName? (String.ofList ['-', c])

/-- Whether a name is a long one. -/
def isLong (name : String) : Bool := name.toList.take 2 == ['-', '-']

end Flag
end ColumnFold
