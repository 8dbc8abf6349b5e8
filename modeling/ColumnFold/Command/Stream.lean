import ColumnFold.Command.Config
import ColumnFold.Text.Line

/-!
# Processing lines

Every line is folded without its terminator; the fragments that are kept are joined, and the
terminator is written after them, and again for every empty line that is to follow.

* `Config.foldLine` — the joined fragments of a line.
* `Config.processLine` — what is written for a line.
* `Config.process` — what is written for a text.
* `Config.fault?` — the fault, if there is one, because of which nothing is written for a line.
* `Config.written` — what is written for a text, or the first fault of its lines.
-/

set_option autoImplicit false

namespace ColumnFold
namespace Config

/-- The joined fragments of a line without terminator. -/
def foldLine (c : Config) (body : Text) : Text :=
  List.intercalate (Text.ofString c.separator)
    (c.plan.select (c.options.fold c.plan.layout body))

/-- The empty lines that follow a line with the given terminator. -/
def emptyLines (c : Config) (terminator : Text) : Text :=
  (List.replicate c.paragraph (if terminator.isEmpty then [.lf] else terminator)).flatten

/-- What is written for a line. -/
def processLine (c : Config) (line : Text) : Text :=
  c.foldLine (Line.body line) ++ Line.terminator line ++ c.emptyLines (Line.terminator line)

/-- What is written for a text. -/
def process (c : Config) (t : Text) : Text := (Line.cut t).flatMap c.processLine

/-- The fault of a line. -/
def fault? (c : Config) (line : Text) : Option Fault :=
  c.choices.fault? c.plan.layout (Line.body line)

/-- What is written for lines, one by one, or the first fault among them. -/
def writtenLines (c : Config) (lines : List Text) : Except Fault (List Text) :=
  match lines.findSome? c.fault? with
  | some fault => .error fault
  | none => .ok (lines.map c.processLine)

/-- What is written for a text, or the first fault of its lines. -/
def written (c : Config) (t : Text) : Except Fault Text :=
  (c.writtenLines (Line.cut t)).map List.flatten

/-- Without faults, what is written for a text is what is written for its lines, in order. -/
theorem written_eq_ok_process {c : Config} {t : Text}
    (h : ∀ line ∈ Line.cut t, c.fault? line = none) : c.written t = .ok (c.process t) := by
  rw [written, writtenLines, List.findSome?_eq_none_iff.2 h]
  rfl

end Config
end ColumnFold
