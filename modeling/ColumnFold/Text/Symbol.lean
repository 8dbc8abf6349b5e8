/-!
# Symbols

A text is a list of symbols.  Nearly every symbol is a character; a byte of an input that is not
part of valid UTF-8 is a symbol of its own, so that no input is refused and every byte can be
written back.

* `Symbol` — a character or a stray byte.
* `Text` — a list of symbols.
* `Text.ofString` — the text of a string, which holds no stray bytes.
-/

set_option autoImplicit false

namespace ColumnFold

/-- One position of a text. -/
inductive Symbol where
  /-- A character. -/
  | char (c : Char)
  /-- A byte that belongs to no character. -/
  | raw (b : UInt8)
deriving DecidableEq

/-- A list of characters and stray bytes. -/
abbrev Text := List Symbol

namespace Symbol

/-- The escape character, with which every escape sequence begins. -/
abbrev esc : Symbol := .char '\x1b'

/-- The bell character, which may end an escape sequence. -/
abbrev bel : Symbol := .char '\x07'

/-- The line feed, which ends a line. -/
abbrev lf : Symbol := .char '\n'

/-- The carriage return, which may stand before the line feed. -/
abbrev cr : Symbol := .char '\r'

/-- The horizontal tab. -/
abbrev tab : Symbol := .char '\t'

/-- Whether the symbol is a character that satisfies `p`; a stray byte satisfies nothing. -/
def isChar (p : Char → Bool) : Symbol → Bool
  | .char c => p c
  | .raw _ => false

/-- Whether the symbol is a character with a code point from `lo` to `hi`. -/
def within (lo hi : Nat) : Symbol → Bool :=
  isChar fun c => decide (lo ≤ c.toNat ∧ c.toNat ≤ hi)

@[simp] theorem isChar_char (p : Char → Bool) (c : Char) : (Symbol.char c).isChar p = p c := rfl

end Symbol

namespace Text

/-- The symbols of a list of characters. -/
def ofChars (cs : List Char) : Text := cs.map .char

/-- The symbols of a string. -/
def ofString (s : String) : Text := ofChars s.toList

end Text
end ColumnFold
