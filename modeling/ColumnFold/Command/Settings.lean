import ColumnFold.Choices
import ColumnFold.Command.Use

/-!
# Settings

The settings are what the options of a command line ask for.  Options take effect from left to
right; the first one that asks for help, for the version or for something illegal ends the reading.
An option whose value is left blank is used all the same, and may be used again with a value.

* `Settings` — what the options ask for.
* `Settings.use` — the settings after one more option.
* `Settings.read` — the settings of a command line.
-/

set_option autoImplicit false

namespace ColumnFold

/-- What the options of a command line ask for. -/
structure Settings where
  /-- The width lists, in order; a list that was left blank is `none`. -/
  widths : List (Option String)
  /-- The columns to remove. -/
  columns : Option (List Int)
  /-- The written form of the separator, if one is asked for; inside, `none` if it was left
  blank. -/
  separator : Option (Option String)
  /-- How many empty lines follow each line. -/
  paragraph : Nat
  /-- How lines are folded. -/
  choices : FoldChoices
  /-- Whether words and punctuation matter, whatever else is asked for. -/
  smart : Bool
  /-- The files to process. -/
  files : List String
deriving DecidableEq

/-- Why the reading of a command line ends early. -/
inductive Stop where
  /-- The user asks for help. -/
  | help
  /-- The user asks for the version. -/
  | version
  /-- The command line is refused. -/
  | usage (e : Usage.Error)
deriving DecidableEq

namespace Settings

/-- The settings before any option. -/
def start (expand : Bool) : Settings where
  widths := []
  columns := none
  separator := none
  paragraph := 0
  choices := { FoldOptions.default.choices with expandTabs := expand }
  smart := false
  files := []

/-- The settings after a change of the choices. -/
def choose (s : Settings) (change : FoldChoices → FoldChoices) : Settings :=
  { s with choices := change s.choices }

/-- A value, where a refusal is the misuse of the option. -/
def checked {α : Type} (flag : Flag) (kind : Usage.NumberKind) (value : Except Value.Error α) :
    Except Stop α :=
  match value with
  | .ok a => .ok a
  | .error (.number word _) => .error (.usage (.option flag (.invalidNumber kind word)))
  | .error e => .error (.usage (.option flag (.refused e)))

/-- A positive number as the value of an option. -/
def positive (flag : Flag) (value : String) : Except Stop Int :=
  checked flag .positive (Value.positive value)

/-- A natural number as the value of an option. -/
def nonNegative (flag : Flag) (value : String) : Except Stop Int :=
  checked flag .nonNegative (Value.nonNegative value)

/-- A character of one column as the value of an option. -/
def oneColumn (flag : Flag) (value : String) : Except Stop String :=
  checked flag .positive (Value.oneColumn value)

/-- The choice that a value names. -/
def choice {α : Type} (flag : Flag) (choices : List (String × α)) (value : String) :
    Except Stop α :=
  match choices.find? (·.1 == value) with
  | some (_, a) => .ok a
  | none => .error (.usage (.option flag (.invalidChoice value (choices.map (·.1)))))

/-- Refuses an option if one that it excludes was used. -/
def excludes (flag other : Flag) (used : Bool) : Except Stop Unit :=
  if used then .error (.usage (.option flag (.notAllowedWith other))) else .ok ()

/-- The settings after an option that takes no value. -/
def useSwitch (s : Settings) : Flag → Except Stop Settings
  | .help => .error .help
  | .version => .error .version
  | .noSeparator => .ok { s with separator := some (some "") }
  | .paragraph => .ok { s with paragraph := s.paragraph + 1 }
  | .padding => .ok (s.choose ({ · with padding := true }))
  | .smart => .ok { s with smart := true }
  | .expand => .ok (s.choose ({ · with expandTabs := true }))
  | _ => .ok s

/-- The settings after one more width list, which may be blank. -/
def useWidths (s : Settings) (list : Option String) : Except Stop Settings := do
  excludes .width .columns s.columns.isSome
  return { s with widths := s.widths ++ [list] }

/-- The settings after an option with one value. -/
def useValue (s : Settings) (flag : Flag) (value : String) : Except Stop Settings :=
  match flag with
  | .width => s.useWidths (some value)
  | .separator => .ok { s with separator := some (some value) }
  | .boundary => do
    let boundary ← choice flag [("none", .anywhere), ("word", .word)] value
    return s.choose ({ · with boundary := some boundary })
  | .filler => do
    let filler ← oneColumn flag value
    return s.choose ({ · with filler := some filler })
  | .ambiguity => do
    let ambiguity ← choice flag [("narrow", .narrow), ("wide", .wide)] value
    return s.choose ({ · with ambiguity := some ambiguity })
  | .kinsoku => do
    let kinsoku ← choice flag [("none", .free), ("all", .strict)] value
    return s.choose ({ · with kinsoku := some kinsoku })
  | .runIn => do
    let limit ← nonNegative flag value
    return s.choose ({ · with runIn := some limit })
  | .runOut => do
    let limit ← nonNegative flag value
    return s.choose ({ · with runOut := some limit })
  | .tabStop => do
    let stop ← positive flag value
    return s.choose ({ · with tabStop := some stop })
  | .tabHead => do
    let head ← oneColumn flag value
    return s.choose ({ · with tabHead := some head })
  | .tabSpace => do
    let space ← oneColumn flag value
    return s.choose ({ · with tabSpace := some space })
  | _ => .ok s

/-- The settings after an option whose value is left blank. -/
def useBlank (s : Settings) : Flag → Except Stop Settings
  | .width => s.useWidths none
  | .separator => .ok { s with separator := some none }
  | .boundary => .ok (s.choose ({ · with boundary := none }))
  | .filler => .ok (s.choose ({ · with filler := none }))
  | .ambiguity => .ok (s.choose ({ · with ambiguity := none }))
  | .kinsoku => .ok (s.choose ({ · with kinsoku := none }))
  | .runIn => .ok (s.choose ({ · with runIn := none }))
  | .runOut => .ok (s.choose ({ · with runOut := none }))
  | .tabStop => .ok (s.choose ({ · with tabStop := none }))
  | .tabHead => .ok (s.choose ({ · with tabHead := none }))
  | .tabSpace => .ok (s.choose ({ · with tabSpace := none }))
  | _ => .ok s

/-- The settings after the columns to remove are named. -/
def useColumns (s : Settings) (values : List String) : Except Stop Settings := do
  let columns ← values.mapM (positive .columns)
  excludes .columns .width (!s.widths.isEmpty)
  return { s with columns := some columns }

/-- The settings after one more option. -/
def use (s : Settings) (u : Use) : Except Stop Settings :=
  match u.flag.arity, u.values with
  | .none, _ => s.useSwitch u.flag
  | .one, value :: _ => s.useValue u.flag value
  | .one, [] => s.useBlank u.flag
  | .some, values => s.useColumns values

/-- The settings after one more item of a command line. -/
def step (s : Settings) : Item → Except Stop Settings
  | .uses us => us.foldlM use s
  | .misuse e => .error (.usage e)
  | .operand _ | .unknown _ | .separator => .ok s

/-- The settings of a command line, for a program that expands tabs from the start or not. -/
def read (expand : Bool) (args : List String) : Except Stop Settings :=
  match Word.readAll args with
  | .error e => .error (.usage e)
  | .ok words => do
    let items := Item.ofWords words
    let s ← items.foldlM step (start expand)
    let (files, others) := Item.operands items
    if others.isEmpty then return { s with files }
    else throw (.usage (.unrecognized others))

end Settings
end ColumnFold
