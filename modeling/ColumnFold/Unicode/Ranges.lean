/-!
# Tables of code points

A class of characters is given by the ranges of its code points, in ascending order, none of them
empty.

* `Ranges.contains` — whether a code point lies in one of the ranges.
-/

set_option autoImplicit false

namespace ColumnFold
namespace Unicode

/-- Ranges of code points, both ends included. -/
abbrev Ranges := List (Nat × Nat)

namespace Ranges

/-- Whether one of the ranges holds `n`; the search ends at the first range above `n`. -/
def contains : Ranges → Nat → Bool
  | [], _ => false
  | (lo, hi) :: rest, n => if n < lo then false else if n ≤ hi then true else contains rest n

end Ranges
end Unicode
end ColumnFold
