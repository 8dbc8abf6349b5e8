import ColumnFold.Cluster
import ColumnFold.Escape
import ColumnFold.Measure
import ColumnFold.Unicode.Alphanumeric

/-!
# Cells

A line is folded cell by cell: a cell is never split.  It is a glyph, which is a grapheme cluster
with its width in columns, or an escape sequence, which takes no columns.  No glyph reaches across
an escape sequence.

* `Cell` — a glyph or an escape sequence.
* `Cell.ofText` — the cells of a text, which spell the text (`Cell.spell_ofText`).
* `Cell.columns` — the columns that cells take together.
-/

set_option autoImplicit false

namespace ColumnFold

/-- A piece of text that is never split. -/
inductive Cell where
  /-- A grapheme cluster and the columns it takes. -/
  | glyph (head : Symbol) (tail : Text) (width : Nat)
  /-- An escape sequence: the escape character followed by `body`. -/
  | escape (body : Text)
deriving DecidableEq

namespace Cell

/-- The symbols of a cell. -/
def text : Cell → Text
  | .glyph head tail _ => head :: tail
  | .escape body => .esc :: body

/-- The columns of a cell. -/
def width : Cell → Nat
  | .glyph _ _ width => width
  | .escape _ => 0

/-- Whether a cell is an escape sequence. -/
def isEscape : Cell → Bool
  | .glyph .. => false
  | .escape _ => true

/-- Whether the first symbol of a glyph is a character that satisfies `p`. -/
def headIs (p : Char → Bool) : Cell → Bool
  | .glyph head _ _ => head.isChar p
  | .escape _ => false

/-- Whether a cell is part of a word: one column wide, and a letter, a number or an underscore. -/
def isWord (c : Cell) : Bool :=
  c.width == 1 && c.headIs fun ch => Unicode.isAlphanumeric ch || ch == '_'

/-- The columns that cells take together. -/
def columns : List Cell → Nat
  | [] => 0
  | c :: cells => c.width + columns cells

/-- The symbols of cells, in order. -/
def spell (cells : List Cell) : Text := cells.flatMap text

@[simp] theorem columns_nil : columns [] = 0 := rfl

@[simp] theorem columns_cons (c : Cell) (cells : List Cell) :
    columns (c :: cells) = c.width + columns cells := rfl

@[simp] theorem columns_append (xs ys : List Cell) :
    columns (xs ++ ys) = columns xs + columns ys := by
  induction xs with
  | nil => simp
  | cons c xs ih => simp [ih, Nat.add_assoc]

@[simp] theorem spell_nil : spell [] = [] := rfl

@[simp] theorem spell_cons (c : Cell) (cells : List Cell) :
    spell (c :: cells) = c.text ++ spell cells := rfl

theorem spell_append (xs ys : List Cell) : spell (xs ++ ys) = spell xs ++ spell ys :=
  List.flatMap_append

/-! ## Reading the cells of a text -/

/-- A glyph that further symbols may still join. -/
structure Pending where
  /-- The first symbol. -/
  head : Symbol
  /-- The other symbols, the last one first. -/
  rest : Text
  /-- What the symbols say about the next one. -/
  state : Cluster.State

/-- A glyph of one symbol. -/
def Pending.start (s : Symbol) : Pending := ⟨s, [], .start s⟩

/-- A glyph with one more symbol. -/
def Pending.push (p : Pending) (s : Symbol) : Pending := ⟨p.head, s :: p.rest, p.state.next s⟩

/-- The finished glyph. -/
def Pending.cell (a : Ambiguity) (p : Pending) : Cell :=
  .glyph p.head p.rest.reverse (Measure.columns a (p.head :: p.rest.reverse))

/-- The cells of tokens, after a glyph that they may go on with. -/
def ofTokens (a : Ambiguity) : Option Pending → List Escape.Token → List Cell
  | none, [] => []
  | some p, [] => [p.cell a]
  | none, .escape body :: ts => .escape body :: ofTokens a none ts
  | some p, .escape body :: ts => p.cell a :: .escape body :: ofTokens a none ts
  | none, .plain s :: ts => ofTokens a (some (.start s)) ts
  | some p, .plain s :: ts =>
    if p.state.joins s then ofTokens a (some (p.push s)) ts
    else p.cell a :: ofTokens a (some (.start s)) ts

/-- The cells of a text. -/
def ofText (a : Ambiguity) (t : Text) : List Cell := ofTokens a none (Escape.Token.ofText t)

theorem spell_ofTokens (a : Ambiguity) (p : Option Pending) (ts : List Escape.Token) :
    spell (ofTokens a p ts) =
      (p.elim [] fun p => p.head :: p.rest.reverse) ++ ts.flatMap Escape.Token.text := by
  fun_induction ofTokens a p ts <;>
    simp_all [text, Pending.cell, Pending.start, Pending.push, Escape.Token.text]

/-- The cells of a text spell the text. -/
theorem spell_ofText (a : Ambiguity) (t : Text) : spell (ofText a t) = t := by
  rw [ofText, spell_ofTokens, Escape.Token.flatten_ofText]
  rfl

end Cell
end ColumnFold
