import ColumnFold.Unicode.Ranges

/-!
# Blanks and white space

* `isBlank` holds of the characters that may stand before and after a written number: the ASCII
  space, tab, line feed, vertical tab, form feed and carriage return, and the spaces and separators
  of the rest of Unicode.  The information separators U+001C to U+001F are not blanks.
* `isSpace` holds of all white space, which is the blanks and the information separators.
-/

set_option autoImplicit false

namespace ColumnFold
namespace Unicode

/-- The blanks. -/
def blankRanges : Ranges :=
  [(0x9, 0xD), (0x20, 0x20), (0x85, 0x85), (0xA0, 0xA0), (0x1680, 0x1680), (0x2000, 0x200A),
   (0x2028, 0x2029), (0x202F, 0x202F), (0x205F, 0x205F), (0x3000, 0x3000)]

/-- Whether a character may stand around a number. -/
def isBlank (c : Char) : Bool := blankRanges.contains c.toNat

/-- Whether a character is white space. -/
def isSpace (c : Char) : Bool := isBlank c || decide (0x1C ≤ c.toNat ∧ c.toNat ≤ 0x1F)

end Unicode
end ColumnFold
