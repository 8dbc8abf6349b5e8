import ColumnFold.Unicode.Printable

/-!
# Quotations

Messages quote the text they complain about.  The quotation stands between single quotes, or
between double quotes if the text holds a single quote and no double quote.  Inside, the backslash
and the enclosing quote are escaped by a backslash; line feeds, carriage returns and tabs have
letters of their own; every other character that cannot be printed is shown by its code point, in
two, four or eight hexadecimal digits.

* `Quoted.quote` — the quotation of a string.
* `Quoted.excerpt` — the beginning of a quotation.
-/

set_option autoImplicit false

namespace ColumnFold
namespace Quoted

/-- The quotation mark for a text. -/
def mark (cs : List Char) : Char :=
  if cs.contains '\'' && !cs.contains '"' then '"' else '\''

/-- A number in hexadecimal, with zeros in front to make `width` digits. -/
def hex (width n : Nat) : List Char :=
  let digits := Nat.toDigits 16 n
  List.replicate (width - digits.length) '0' ++ digits

/-- The escape for a character that cannot be printed. -/
def escapeCode (c : Char) : List Char :=
  let n := c.toNat
  if n < 0x100 then '\\' :: 'x' :: hex 2 n
  else if n < 0x10000 then '\\' :: 'u' :: hex 4 n
  else '\\' :: 'U' :: hex 8 n

/-- A character as it is shown between two marks `q`. -/
def escape (q c : Char) : List Char :=
  if c = q ∨ c = '\\' then ['\\', c]
  else if c = '\n' then ['\\', 'n']
  else if c = '\r' then ['\\', 'r']
  else if c = '\t' then ['\\', 't']
  else if Unicode.isPrintable c then [c]
  else escapeCode c

/-- The quotation of a text. -/
def quoteChars (cs : List Char) : List Char :=
  let q := mark cs
  q :: (cs.flatMap (escape q) ++ [q])

/-- The quotation of a string. -/
def quote (s : String) : String := String.ofList (quoteChars s.toList)

/-- The first `n` characters of the quotation of a string, marks and escapes counted. -/
def excerpt (n : Nat) (s : String) : String := String.ofList ((quoteChars s.toList).take n)

end Quoted
end ColumnFold
