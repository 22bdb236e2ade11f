import RowPlan.ColumnType
import RowPlan.Model

/-!
# The type catalog

Well-known types, each with its column type and the accessor that reads and
writes its values. Classes that the model declares itself, with fields or as
enumerations, are never catalog types.
-/

namespace RowPlan

/-- What the catalog knows about a type. A primitive accessor yields a zero value
where the column holds no value. -/
structure KnownType where
  columnType : ColumnType
  accessor : String
  primitive : Bool := false
  deriving DecidableEq, Repr

/-- Known types by name; of several entries for a name the first counts. -/
structure Catalog where
  entries : List (QualifiedName × KnownType)

/-! ## Built-in types -/

/-- The paths of list containers. -/
def listPaths : List String := [
  "Vec", "std::vec::Vec", "alloc::vec::Vec", "List",
  "VecDeque", "std::collections::VecDeque",
  "HashSet", "std::collections::HashSet",
  "BTreeSet", "std::collections::BTreeSet"]

/-- The paths of map containers. -/
def mapPaths : List String := [
  "HashMap", "std::collections::HashMap",
  "BTreeMap", "std::collections::BTreeMap",
  "Map", "serde_json::Map"]

/-- The types whose name may also be qualified as a primitive. -/
def primitivePaths : List (List String × KnownType) := [
  (["bool"], ⟨.boolean, "bool", true⟩),
  (["i8", "i16"], ⟨.smallInt, "i16", true⟩),
  (["i32", "u16"], ⟨.integer, "i32", true⟩),
  (["i64", "u32"], ⟨.bigInt, "i64", true⟩),
  (["f32"], ⟨.real, "f32", true⟩),
  (["f64"], ⟨.doublePrecision, "f64", true⟩),
  (["str"], ⟨.text, "string", false⟩)]

/-- The other built-in types, each with all the paths that name it. -/
def libraryPaths : List (List String × KnownType) := [
  (["String", "std::string::String", "alloc::string::String"], ⟨.text, "string", false⟩),
  (["Bytes", "bytes::Bytes"], ⟨.bytea, "bytes", false⟩),
  (["NaiveDate", "chrono::NaiveDate", "time::Date"], ⟨.date, "date", false⟩),
  (["NaiveTime", "chrono::NaiveTime", "time::Time"], ⟨.time, "time", false⟩),
  (["NaiveDateTime", "chrono::NaiveDateTime", "PrimitiveDateTime", "time::PrimitiveDateTime"],
    ⟨.timestamp, "timestamp", false⟩),
  (["DateTime", "chrono::DateTime", "OffsetDateTime", "time::OffsetDateTime"],
    ⟨.timestampTz, "timestamptz", false⟩),
  (["Decimal", "rust_decimal::Decimal", "BigDecimal", "bigdecimal::BigDecimal"],
    ⟨.numeric, "decimal", false⟩),
  (["Uuid", "uuid::Uuid"], ⟨.uuid, "uuid", false⟩),
  (["Value", "serde_json::Value"], ⟨.jsonb, "json", false⟩),
  (listPaths, ⟨.jsonb, "json", false⟩),
  (mapPaths, ⟨.jsonb, "json", false⟩),
  (["()"], ⟨.other "VOID", "unit", false⟩)]

namespace Catalog

/-- Entries for every path of a group of types. -/
def entriesOf (groups : List (List String × KnownType)) : List (QualifiedName × KnownType) :=
  groups.flatMap fun (paths, known) => paths.map fun path => (QualifiedName.ofPath path, known)

/-- Primitive types under their bare and their qualified names. -/
def primitiveEntries : List (QualifiedName × KnownType) :=
  primitivePaths.flatMap fun (names, known) => names.flatMap fun name => [
    (QualifiedName.bare name, known),
    ({ scope := "std::primitive", name }, known),
    ({ scope := "core::primitive", name }, known)]

/-- The catalog of the built-in types. -/
def builtin : Catalog where
  entries := primitiveEntries ++ entriesOf libraryPaths

/-- Adds an entry under a path, or replaces the one there. -/
def register (catalog : Catalog) (path : String) (known : KnownType) : Catalog where
  entries := (QualifiedName.ofPath path, known) :: catalog.entries

/-- What is known of the type of a name. -/
def lookup (catalog : Catalog) (name : QualifiedName) : Option KnownType :=
  catalog.entries.lookup name

end Catalog

/-! ## Containers and special types -/

namespace QualifiedName

/-- The name of a list container. -/
def isList (name : QualifiedName) : Bool :=
  (listPaths.map ofPath).contains name

/-- The name of a map container. -/
def isMap (name : QualifiedName) : Bool :=
  (mapPaths.map ofPath).contains name

/-- The name of the type of no value. -/
def isUnit (name : QualifiedName) : Bool :=
  name.isBare && name.name == "()"

/-- Whether a type of the runtime library is meant, bare or qualified. -/
def isRuntime (name : QualifiedName) (runtime : String) : Bool :=
  name.name == runtime
    && (name.isBare || name.scope == "repogen_core" || name.scope == "repogen_core::prelude")

/-- A page of rows. -/
def isPage (name : QualifiedName) : Bool :=
  name.isRuntime "Page"

/-- A request for a page. -/
def isPageable (name : QualifiedName) : Bool :=
  name.isRuntime "Pageable"

/-- A sort order chosen by the caller. -/
def isOrder (name : QualifiedName) : Bool :=
  name.isRuntime "Order"

end QualifiedName

namespace Catalog

/-- A list of bytes, which is one value. -/
def isByteList (type : TypeUse) : Bool :=
  type.name.isList && type.element?.any fun element =>
    element.name.name == "u8" && element.arguments.isEmpty

/-- What the catalog knows about a type use, if it maps to one column. -/
def resolve (catalog : Catalog) (type : TypeUse) : Option KnownType :=
  if type.target.isComposite || type.target.isEnum then none
  else if isByteList type then some ⟨.bytea, "bytes", false⟩
  else catalog.lookup type.name

/-- A list of values other than bytes. -/
def isCollection (catalog : Catalog) (type : TypeUse) : Bool :=
  type.name.isList
    && ((catalog.resolve type).map fun known => known.columnType != .bytea).getD true

/-- The column type of a type use, if it maps to one column; enumerations are
stored by the name of their value. -/
def columnType (catalog : Catalog) (type : TypeUse) : Option ColumnType :=
  match catalog.resolve type with
  | some known => some known.columnType
  | none => if type.target.isEnum then some .text else none

end Catalog

end RowPlan
