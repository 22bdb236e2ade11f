/-!
# Character classes

A character class is an increasing list of closed code point ranges. Classes
of the Unicode standard are given this way, one table a module.
-/

namespace RowPlan

/-- A set of characters, as closed ranges of code points in increasing order. -/
structure CharClass where
  ranges : List (Nat × Nat)

namespace CharClass

/-- A character is in the class when one of the ranges holds its code point. -/
def contains (characters : CharClass) (c : Char) : Bool :=
  characters.ranges.any fun range => range.1 ≤ c.toNat && c.toNat ≤ range.2

end CharClass


end RowPlan
