import ColumnFold.Text.Symbol

/-!
# Lines

A text is cut into lines after each line feed; the last line may have none.  A line consists of its
body and its terminator, which is a line feed, a carriage return and a line feed, or nothing.

* `Line.cut` — the lines of a text, whose concatenation is the text (`Line.flatten_cut`).
* `Line.body`, `Line.terminator` — the two parts of a line (`Line.body_append_terminator`).
* `Line.unify` — the text with every kind of line end written as a line feed.
-/

set_option autoImplicit false

namespace ColumnFold
namespace Line

/-- The lines of a text, each with its line feed. -/
def cut : Text → List Text
  | [] => []
  | s :: t =>
    if s = .lf then [s] :: cut t
    else match cut t with
      | [] => [[s]]
      | line :: rest => (s :: line) :: rest

theorem flatten_cut (t : Text) : (cut t).flatten = t := by
  induction t with
  | nil => rfl
  | cons s t ih =>
    rw [cut]
    split
    · simp [ih]
    · split
      · rename_i h
        rw [h] at ih
        simp [← ih]
      · rename_i h
        rw [h] at ih
        simp [← ih]

/-- The line feed at the end of a line, with the carriage return before it if there is one. -/
def terminator (line : Text) : Text :=
  match line.reverse with
  | .char '\n' :: .char '\r' :: _ => [.cr, .lf]
  | .char '\n' :: _ => [.lf]
  | _ => []

/-- A line without its terminator. -/
def body (line : Text) : Text := line.take (line.length - (terminator line).length)

theorem terminator_suffix (line : Text) : terminator line <:+ line := by
  rw [terminator.eq_def]
  split
  · rename_i r h
    exact ⟨r.reverse, by rw [← List.reverse_reverse line, h]; simp⟩
  · rename_i r _ h
    exact ⟨r.reverse, by rw [← List.reverse_reverse line, h]; simp⟩
  · exact List.nil_suffix

theorem body_append_terminator (line : Text) : body line ++ terminator line = line := by
  obtain ⟨b, hb⟩ := terminator_suffix line
  have hlen : line.length = b.length + (terminator line).length := by
    rw [← List.length_append, hb]
  have htake : line.take b.length = b := by
    conv => lhs; rw [← hb]
    simp
  rw [body, hlen, Nat.add_sub_cancel, htake, hb]

/-- Writes a carriage return, alone or before a line feed, as a line feed. -/
def unify : Text → Text
  | [] => []
  | .char '\r' :: .char '\n' :: t => .lf :: unify t
  | s :: t => (if s = .cr then .lf else s) :: unify t

end Line
end ColumnFold
