import RowPlan.Text.Identifier.Table

/-!
# Identifier characters

An identifier starts with a letter of any script or `_`, and goes on with
letters, digits, combining marks and connecting punctuation.
-/

namespace RowPlan

/-- An identifier may begin with the character. -/
def isIdentifierStart (c : Char) : Bool :=
  if c.toNat < 128 then c.isAlpha || c == '_' else identifierStartTable.contains c

/-- An identifier may go on with the character. -/
def isIdentifierPart (c : Char) : Bool :=
  if c.toNat < 128 then c.isAlphanum || c == '_' else identifierPartTable.contains c

end RowPlan
