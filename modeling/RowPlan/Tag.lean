/-!
# Tags

Classes, fields, functions and parameters carry tags: a name with text
parameters. A parameter whose text is empty counts as absent.
-/

namespace RowPlan

/-- A name with parameters by key. -/
structure Tag where
  name : String
  params : List (String × String) := []
  deriving DecidableEq, Repr

namespace Tag

/-- The key of the parameter of a tag that has only one. -/
def valueKey : String := "value"

/-- A tag that holds one value. -/
def valued (name value : String) : Tag :=
  { name, params := [(valueKey, value)] }

/-- The parameter of a key, unless it is empty. -/
def param? (tag : Tag) (key : String) : Option String :=
  (tag.params.lookup key).filter fun value => value != ""

/-- The value of a tag that holds one. -/
def value? (tag : Tag) : Option String :=
  tag.param? valueKey

/-- The first tag of a name. -/
def named? (name : String) (tags : List Tag) : Option Tag :=
  tags.find? fun tag => tag.name == name

/-- One of the tags has a name. -/
def isNamed (name : String) (tags : List Tag) : Bool :=
  (named? name tags).isSome

end Tag

/-! ## The names with a meaning -/

namespace TagName

/-- Member of the primary key. -/
def id : String := "Id"

/-- Counter for optimistic locking. -/
def version : String := "Version"

/-- Column name and type of a field. -/
def column : String := "Column"

/-- Table name and schema of an entity or repository. -/
def table : String := "Table"

/-- Database of a repository. -/
def repository : String := "Repository"

/-- Condition text. -/
def condition : String := "Where"

/-- Query text. -/
def query : String := "Query"

/-- Text of a statement that returns no rows. -/
def statement : String := "Statement"

/-- Row limit, as a number on a function or bound to a parameter. -/
def limit : String := "Limit"

/-- Takes the first of several rows. -/
def first : String := "First"

/-- Sort clause. -/
def orderBy : String := "OrderBy"

/-- Makes the function a delete. -/
def delete : String := "Delete"

/-- Makes the function a save. -/
def save : String := "Save"

/-- Makes a save fail on rows that exist. -/
def onConflictFail : String := "OnConflictFail"

end TagName

/-- What a field says about its column. -/
structure ColumnOverride where
  name : Option String := none
  type : Option String := none
  schema : Option String := none

/-- Reads the column tag among the tags of a field. -/
def ColumnOverride.of (tags : List Tag) : ColumnOverride :=
  match Tag.named? TagName.column tags with
  | some tag =>
      { name := tag.param? "name"
        type := tag.param? "type"
        schema := tag.param? "schema" }
  | none => {}

end RowPlan
