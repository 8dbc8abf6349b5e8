import ColumnFold.Command.Directory
import ColumnFold.Command.Stream
import ColumnFold.Text.Utf8

/-!
# Running the command

A run reads its words, and then the files that they name, or standard input if they name none.  In
standard input a carriage return is a character like any other unless it is part of a terminator; in
a file every kind of line end counts as a line feed.  A file that cannot be read ends the run, but
what was written before stays written.  A run that cannot go on at all breaks down.

* `Outcome` — the exit status and the two outputs of a run.
* `Breakdown` — why a run has no outcome.
* `Program.run` — the outcome of a run.
-/

set_option autoImplicit false

namespace ColumnFold

/-- What a run leaves behind. -/
structure Outcome where
  /-- The exit status. -/
  status : Nat
  /-- The bytes written to standard output. -/
  stdout : List UInt8
  /-- The text written to standard error. -/
  stderr : String
deriving DecidableEq

/-- Why a file cannot be read. -/
inductive FileError where
  /-- There is no such file. -/
  | missing (name : String)
  /-- The name is that of a directory. -/
  | directory (name : String)
deriving DecidableEq

/-- The complaint about a file that cannot be read. -/
def FileError.message : FileError → String
  | .missing name => s!"'{name}': No such file or directory"
  | .directory name => s!"'{name}': is a directory"

/-- Why a run breaks down without an outcome of its own. -/
inductive Breakdown where
  /-- There is no configuration. -/
  | config (e : Config.Error)
  /-- A line cannot be folded. -/
  | line (fault : Fault)
  /-- The name of a file is no path. -/
  | path (name : String) (e : PathError)
deriving DecidableEq

/-- The complaint about a run that breaks down. -/
def Breakdown.message : Breakdown → String
  | .config e => e.message
  | .line fault => fault.message
  | .path name .throughFile => s!"[Errno 20] Not a directory: {Quoted.quote name}"
  | .path name .tooLong => s!"[Errno 36] File name too long: {Quoted.quote name}"
  | .path _ .hasNul => "embedded null byte"

/-- The name that stands for standard input. -/
def stdinName : String := "-"

namespace Config

/-- The files to process; without names, standard input. -/
def inputs (c : Config) : List String := if c.files.isEmpty then [stdinName] else c.files

/-- What is written for a text, if the run does not break down. -/
def passed (c : Config) (t : Text) : Except Breakdown Text :=
  match c.written t with
  | .error fault => .error (.line fault)
  | .ok out => .ok out

/-- What is written for some inputs, up to the first that cannot be read, unless the run breaks down
before that.  Standard input can be read only once. -/
def processFiles (c : Config) (lookup : String → Source) :
    Text → List String → Except Breakdown (Text × Option FileError)
  | _, [] => .ok ([], none)
  | stdin, name :: names =>
    if name = stdinName then do
      let first ← c.passed stdin
      let (out, e) ← processFiles c lookup [] names
      return (first ++ out, e)
    else match lookup name with
      | .missing => .ok ([], some (.missing name))
      | .directory => .ok ([], some (.directory name))
      | .unusable e => .error (.path name e)
      | .content bytes => do
        let first ← c.passed (Line.unify (Utf8.decode bytes))
        let (out, e) ← processFiles c lookup stdin names
        return (first ++ out, e)

end Config

namespace Program

/-- A complaint under the name of the program. -/
def complain (p : Program) (message : String) : String := s!"{p.name}: {message}\n"

/-- The outcome of a run that ends while its words are read. -/
def stopped (p : Program) : Stop → Outcome
  | .help => ⟨0, Utf8.encode (Text.ofString (Usage.help p.name p.mode.defaultWidth)), ""⟩
  | .version => ⟨0, Utf8.encode (Text.ofString (Usage.version p.name)), ""⟩
  | .usage e => ⟨2, [], e.report p.name⟩

/-- The outcome of a run with a configuration. -/
def runWith (p : Program) (c : Config) (stdin : List UInt8) (lookup : String → Source) :
    Except Breakdown Outcome := do
  match ← c.processFiles lookup (Utf8.decode stdin) c.inputs with
  | (out, none) => return ⟨0, Utf8.encode out, ""⟩
  | (out, some e) => return ⟨1, Utf8.encode out, p.complain e.message⟩

/-- The outcome of a run with the given words, standard input and files. -/
def run (p : Program) (args : List String) (stdin : List UInt8) (lookup : String → Source) :
    Except Breakdown Outcome :=
  match Config.settings p.mode args with
  | .error stop => .ok (p.stopped stop)
  | .ok s =>
    match Config.ofSettings p.mode s with
    | .error e => if e.isRefusal then .ok ⟨1, [], p.complain e.message⟩ else .error (.config e)
    | .ok c => p.runWith c stdin lookup

/-- The inputs that a run with the given words reads, if it comes to that. -/
def inputs (p : Program) (args : List String) : List String :=
  match Config.settings p.mode args with
  | .error _ => []
  | .ok s =>
    match Config.ofSettings p.mode s with
    | .error _ => []
    | .ok c => c.inputs

end Program
end ColumnFold
