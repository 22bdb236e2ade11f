import RowPlan.Reading.Fault

/-!
# Compilation errors

What can be wrong with a mapping, a repository or one of its functions. An error
of a function names the function.
-/

namespace RowPlan

/-- The cause why a mapping or a method cannot be compiled. -/
inductive CompileError where
  /-- A leaf field without a column type. -/
  | unmappableType (path : String)
  /-- Two columns of a table with one name. -/
  | duplicateColumn (table column : String)
  /-- A composite field that may be absent. -/
  | nullableComposite (path : String)
  /-- A repository without an entity. -/
  | missingEntity (repository : String)
  /-- A placeholder that names no parameter. -/
  | unknownParameter (function name : String)
  /-- Parameters that nothing uses. -/
  | unusedParameters (function : String) (names : List String)
  /-- A parameter that matches no column. -/
  | unknownFinderParameter (function name : String)
  /-- A save of something that is not the entity or a list of it. -/
  | invalidSaveParameter (function : String)
  /-- A page without a request for it, or the reverse. -/
  | paginationMismatch (function : String)
  /-- Several sources of a row limit. -/
  | ambiguousLimit (function : String) (sources : List String)
  /-- The first row of a collection. -/
  | firstOnCollection (function : String)
  /-- A derived query for something other than rows, a count or a truth value. -/
  | unsupportedReturnType (function type : String)
  /-- A field of a projection that matches no column. -/
  | unknownProjectionField (function path : String)
  /-- A parameter or a field that matches several columns. -/
  | ambiguousColumn (function name : String) (candidates : List String)
  /-- A tag with a value that cannot be read. -/
  | invalidTag (function tag value : String)
  /-- Source text that cannot be read. -/
  | source (fault : Fault)

namespace CompileError

/-- The function that an error belongs to. -/
def function? : CompileError → Option String
  | unknownParameter function _ | unusedParameters function _
  | unknownFinderParameter function _ | invalidSaveParameter function
  | paginationMismatch function | ambiguousLimit function _ | firstOnCollection function
  | unsupportedReturnType function _ | unknownProjectionField function _
  | ambiguousColumn function _ _ | invalidTag function _ _ => some function
  | unmappableType _ | duplicateColumn _ _ | nullableComposite _ | missingEntity _
  | source _ => none

/-- What is reported of an error. -/
def message : CompileError → String
  | unmappableType path => s!"cannot determine column type of `{path}`; annotate explicitly"
  | duplicateColumn table column => s!"duplicate column `{column}` in table `{table}`"
  | nullableComposite path =>
      s!"nullable composite field `{path}` cannot be flattened into columns"
  | missingEntity repository => s!"repository `{repository}` does not declare an entity"
  | unknownParameter function name => s!"{function}: unknown parameter `{name}` in SQL text"
  | unusedParameters function names =>
      s!"{function}: unused parameters: " ++ ", ".intercalate names
  | unknownFinderParameter function name =>
      s!"{function}: parameter `{name}` does not match any column"
  | invalidSaveParameter function =>
      s!"{function}: save takes exactly one entity or list of entities"
  | paginationMismatch function =>
      s!"{function}: a Pageable parameter requires a Page return type and vice versa"
  | ambiguousLimit function sources =>
      s!"{function}: conflicting limits (" ++ ", ".intercalate sources ++ ")"
  | firstOnCollection function =>
      s!"{function}: First cannot be combined with a collection return type"
  | unsupportedReturnType function type =>
      s!"{function}: unsupported return type `{type}` for a derived query"
  | unknownProjectionField function path =>
      s!"{function}: projection field `{path}` does not match any column"
  | ambiguousColumn function name candidates =>
      s!"{function}: `{name}` matches several columns: " ++ ", ".intercalate candidates
  | invalidTag function tag value =>
      s!"{function}: invalid {tag} value `{value}`"
  | source fault => fault.message

end CompileError

end RowPlan
