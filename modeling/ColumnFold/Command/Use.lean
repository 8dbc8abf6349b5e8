import ColumnFold.Command.Word

/-!
# Uses of options

A command line is a sequence of uses of options, with operands in between.  A value that is attached
to an option that takes none stands for further short options: `-nsx` is `-n -s -x`.  An option that
takes one value takes the word after it, which must be an operand; one that takes several values
takes all the operands after it.

* `Use` — an option with its values.
* `Item` — what a command line consists of.
* `Item.ofWords` — the items of a command line.
* `Item.operands` — the operands that name files, and the words that nothing takes.
-/

set_option autoImplicit false

namespace ColumnFold

/-- An option with its values. -/
structure Use where
  /-- The option. -/
  flag : Flag
  /-- The values; none if the option takes none, or if they are left blank. -/
  values : List String
deriving DecidableEq

namespace Use

/-- What one option word asks for, and how many of the words after it it takes. -/
abbrev Reading := Except Usage.Error (List Use × Nat)

/-- The use of an option without an attached value, where `following` are the operands after it. -/
def detached (flag : Flag) (following : List String) : Reading :=
  match flag.arity, following with
  | .none, _ => .ok ([⟨flag, []⟩], 0)
  | .one, [] => .error (.option flag .expectsOne)
  | .one, value :: _ => .ok ([⟨flag, [value]⟩], 1)
  | .some, [] => .error (.option flag .expectsSome)
  | .some, values => .ok ([⟨flag, values⟩], values.length)

/-- The use of an option with an attached value.  The word `--` attached is no value, but leaves the
value blank. -/
def attached (flag : Flag) (value : List Char) : Reading :=
  let value := String.ofList value
  if flag.arity = .none then .error (.option flag (.ignoredValue value))
  else .ok ([⟨flag, if value = "--" then [] else [value]⟩], 0)

/-- The uses of a short option and of those attached to it. -/
def short (flag : Flag) (following : List String) : List Char → Reading
  | [] => detached flag following
  | c :: cs =>
    if flag.arity = .none then
      match Flag.ofLetter? c with
      | some next => do
        let (uses, count) ← short next following cs
        return (⟨flag, []⟩ :: uses, count)
      | none => .error (.option flag (.ignoredValue (String.ofList (c :: cs))))
    else attached flag (c :: cs)

/-- The uses that an option word stands for. -/
def ofOption (flag : Flag) (long : Bool) (value : Option (List Char)) (following : List String) :
    Reading :=
  match value with
  | none => detached flag following
  | some [] => attached flag []
  | some (c :: cs) => if long then attached flag (c :: cs) else short flag following (c :: cs)

end Use

/-- What a command line consists of. -/
inductive Item where
  /-- Options that are used together. -/
  | uses (uses : List Use)
  /-- An option that is misused; nothing after it is read. -/
  | misuse (e : Usage.Error)
  /-- An operand that no option takes. -/
  | operand (text : String)
  /-- A word that looks like an option but is none. -/
  | unknown (text : String)
  /-- The word `--`. -/
  | separator
deriving DecidableEq

namespace Item

/-- The items after the next `k` words, which an option has taken. -/
def ofWordsFrom : Nat → List Word → List Item
  | _, [] => []
  | k + 1, _ :: words => ofWordsFrom k words
  | 0, .operand text :: words => .operand text :: ofWordsFrom 0 words
  | 0, .unknown text :: words => .unknown text :: ofWordsFrom 0 words
  | 0, .separator :: words => .separator :: ofWordsFrom 0 words
  | 0, .option flag long value :: words =>
    match Use.ofOption flag long value (Word.operandsAhead words) with
    | .ok (us, count) => .uses us :: ofWordsFrom count words
    | .error e => [.misuse e]

/-- The items of a command line. -/
def ofWords (words : List Word) : List Item := ofWordsFrom 0 words

/-- Where a word stands with respect to the first run of operands. -/
inductive Place where
  /-- Before the run. -/
  | before
  /-- Within the run. -/
  | within
  /-- After the run. -/
  | after
deriving DecidableEq

/-- The place of a word after an option or unknown word. -/
def Place.leave : Place → Place
  | .before => .before
  | .within => .after
  | .after => .after

/-- The operands of the first run, which name files, and the words that nothing takes. -/
def operandsFrom : Place → List Item → List String × List String
  | _, [] => ([], [])
  | .after, .operand text :: items =>
    let (files, others) := operandsFrom .after items
    (files, text :: others)
  | _, .operand text :: items =>
    let (files, others) := operandsFrom .within items
    (text :: files, others)
  | .after, .separator :: items =>
    let (files, others) := operandsFrom .after items
    (files, "--" :: others)
  | _, .separator :: items => operandsFrom .within items
  | place, .unknown text :: items =>
    let (files, others) := operandsFrom place.leave items
    (files, text :: others)
  | place, .uses _ :: items => operandsFrom place.leave items
  | place, .misuse _ :: items => operandsFrom place.leave items

/-- The operands that name files, and the words that nothing takes. -/
def operands (items : List Item) : List String × List String := operandsFrom .before items

end Item
end ColumnFold
