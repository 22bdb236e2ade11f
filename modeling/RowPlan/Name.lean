/-!
# Qualified names

A class is known by a simple name within a namespace, which is empty for names
used bare. In text the namespace and the name are separated by a double colon.
-/

namespace RowPlan

/-- A namespace and a simple name. -/
structure QualifiedName where
  scope : String := ""
  name : String
  deriving DecidableEq, Repr

namespace QualifiedName

/-- A name without namespace. -/
def bare (name : String) : QualifiedName :=
  { name }

/-- The name has no namespace. -/
def isBare (name : QualifiedName) : Bool :=
  name.scope == ""

/-- Splits at the last double colon of a path; `before` is the reversed text passed so far. -/
def splitLast (before : List Char) : List Char → Option (List Char × List Char)
  | [] => none
  | c :: rest =>
      match splitLast (c :: before) rest with
      | some parts => some parts
      | none =>
          match c, rest with
          | ':', ':' :: name => some (before.reverse, name)
          | _, _ => none

/-- Reads a path of segments separated by double colons. -/
def ofPath (path : String) : QualifiedName :=
  match splitLast [] path.toList with
  | some (scope, name) => { scope := String.ofList scope, name := String.ofList name }
  | none => bare path

/-- The path of a name. -/
def text (name : QualifiedName) : String :=
  if name.isBare then name.name else name.scope ++ "::" ++ name.name

end QualifiedName

end RowPlan
