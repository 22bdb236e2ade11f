import RowPlan.Text.Alphanumeric.Table

/-!
# Letters and numbers
-/

namespace RowPlan

/-- An alphabetic or numeric character of any script. -/
def isLetterOrNumber (c : Char) : Bool :=
  if c.toNat < 128 then c.isAlphanum else letterOrNumberTable.contains c

end RowPlan
