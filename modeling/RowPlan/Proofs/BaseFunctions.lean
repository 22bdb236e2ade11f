import RowPlan.Proofs.Saving
import RowPlan.Proofs.Signature
import RowPlan.Repository

/-!
# Base functions

Every repository has a `save` and a `find_all`. They are compiled like declared
functions, so that what they are has to be read off their names and types.
-/

namespace RowPlan

/-- A list of entities is not taken for a number or a truth value: a catalog that
stores lists as bytes does not read them as one. -/
def Catalog.ReadsLists (catalog : Catalog) : Prop :=
  ∀ known, catalog.lookup (QualifiedName.ofPath "Vec") = some known →
    known.columnType = .bytea → known.accessor ∉ ["i32", "i64", "bool"]

namespace Repository

theorem eq_save {entity : ClassDecl} {function : FunctionDecl}
    (base : function ∈ baseFunctions entity) (name : function.name = "save") :
    function =
      { name := "save", parameters := [⟨"item", { target := entity }, []⟩],
        returnType := .unit } := by
  simp only [baseFunctions, List.mem_cons, List.not_mem_nil, or_false] at base
  rcases base with rfl | rfl | rfl | rfl
  · rfl
  · simp at name
  · simp at name
  · simp at name

theorem eq_findAll {entity : ClassDecl} {function : FunctionDecl}
    (base : function ∈ baseFunctions entity) (name : function.name = "find_all") :
    function =
      { name := "find_all",
        returnType := TypeUse.named "Vec" [{ target := entity }] } := by
  simp only [baseFunctions, List.mem_cons, List.not_mem_nil, or_false] at base
  rcases base with rfl | rfl | rfl | rfl
  · simp at name
  · simp at name
  · rfl
  · simp at name

theorem untagged_of_base {entity : ClassDecl} {function : FunctionDecl}
    (base : function ∈ baseFunctions entity) : function.tags = [] := by
  simp only [baseFunctions, List.mem_cons, List.not_mem_nil, or_false] at base
  rcases base with rfl | rfl | rfl | rfl
  · rfl
  · rfl
  · rfl
  · rfl

end Repository

/-! ## Functions without tags -/

namespace FunctionDecl

variable {function : FunctionDecl}

section

variable (untagged : function.tags = [])

include untagged

theorem tag?_of_untagged (name : String) : function.tag? name = none := by
  rw [tag?, untagged]
  rfl

theorem has_of_untagged (name : String) : function.has name = false := by
  rw [has, untagged]
  rfl

theorem literalLimit_of_untagged : function.literalLimit = .ok none := by
  rw [literalLimit, tag?_of_untagged untagged]

end

theorem parametersOf_of_plain (plain : function.parameters = []) (role : Role) :
    function.parametersOf role = [] := by
  rw [parametersOf, plain]
  rfl

end FunctionDecl

namespace Scope

variable {scope : Scope} {function : FunctionDecl} {method : Method}

section

variable (untagged : function.tags = [])

include untagged

theorem archetype_of_save (saves : startsWith "save" function.name = true) :
    scope.archetype function = .save := by
  simp [archetype, FunctionDecl.has_of_untagged untagged, saves]

theorem archetype_of_reading (noSave : startsWith "save" function.name = false)
    (noDelete : startsWith "delete" function.name = false) :
    scope.archetype function = scope.catalog.readingArchetype function.returnType := by
  simp [archetype, FunctionDecl.has_of_untagged untagged, noSave, noDelete]

end

theorem archetype_save (base : function ∈ Repository.baseFunctions scope.entity)
    (name : function.name = "save") : scope.archetype function = .save := by
  apply archetype_of_save (Repository.untagged_of_base base)
  rw [name]
  decide

theorem saveUpdates_save {parameters : List ParameterDecl} {type : TypeUse} :
    scope.saveUpdates { name := "save", parameters, returnType := type } =
      scope.table.hasIds := by
  rw [saveUpdates, FunctionDecl.has_of_untagged rfl, Bool.not_false, Bool.and_true]

/-- What a list that is not a collection can be resolved to: it is stored as bytes. -/
theorem resolve_of_single {catalog : Catalog} {elements : List TypeUse}
    (single : catalog.isCollection (TypeUse.named "Vec" elements) = false) :
    ∃ known, catalog.resolve (TypeUse.named "Vec" elements) = some known ∧
      known.columnType = .bytea := by
  have list : (TypeUse.named "Vec" elements).name.isList = true := by
    have bare : (QualifiedName.ofPath "Vec").isList = true := by decide
    exact bare
  rw [Catalog.isCollection, list, Bool.true_and] at single
  cases resolved : catalog.resolve (TypeUse.named "Vec" elements) with
  | none => simp [resolved] at single
  | some known => exact ⟨known, rfl, by simpa [resolved] using single⟩

theorem noPage_list (elements : List TypeUse) :
    (TypeUse.named "Vec" elements).name.isPage = false := by
  have bare : (QualifiedName.ofPath "Vec").isPage = false := by decide
  exact bare

theorem readingArchetype_list {catalog : Catalog} (lists : catalog.ReadsLists)
    (elements : List TypeUse) :
    catalog.readingArchetype (TypeUse.named "Vec" elements) = .finder := by
  have noPage := noPage_list elements
  cases collection : catalog.isCollection (TypeUse.named "Vec" elements) with
  | true =>
      have many := (ReturnShape.of_collection noPage collection).1
      simp only [Catalog.readingArchetype, many, if_true]
  | false =>
      obtain ⟨many, row⟩ := ReturnShape.of_single noPage collection
      obtain ⟨known, resolved, bytes⟩ := resolve_of_single collection
      have accessor : known.accessor ∉ ["i32", "i64", "bool"] := by
        unfold Catalog.resolve at resolved
        split at resolved
        · cases resolved
        · split at resolved
          · cases resolved
            decide
          · exact lists known resolved bytes
      simp only [List.mem_cons, List.not_mem_nil, or_false, not_or] at accessor
      simp only [Catalog.readingArchetype, many, row, resolved, Option.map_some,
        Bool.false_eq_true, if_false]
      split
      case h_1 equality => exact (accessor.1 (Option.some.inj equality)).elim
      case h_2 equality => exact (accessor.2.1 (Option.some.inj equality)).elim
      case h_3 equality => exact (accessor.2.2 (Option.some.inj equality)).elim
      case h_4 => rfl

theorem archetype_findAll (base : function ∈ Repository.baseFunctions scope.entity)
    (name : function.name = "find_all") (lists : scope.catalog.ReadsLists) :
    scope.archetype function = .finder := by
  obtain rfl := Repository.eq_findAll base name
  have noSave : startsWith "save" "find_all" = false := by decide
  have noDelete : startsWith "delete" "find_all" = false := by decide
  rw [archetype_of_reading rfl noSave noDelete]
  exact readingArchetype_list lists _

/-- The suffix of a query for all rows: a cap where one row is expected. -/
def cappedSuffix (isMany : Bool) (rows : Nat) : Suffix where
  orderBy := none
  orderParameter := none
  limit := if isMany then none else some (.cap rows)
  pageable := none

section

variable (plain : function.parameters = []) (untagged : function.tags = [])

include plain untagged

theorem suffix_of_plain {shape : ReturnShape} (noPage : shape.isPage = false) :
    scope.suffix function shape true =
      .ok (cappedSuffix shape.isMany scope.options.singleResultCap.toNat) := by
  simp only [suffix, FunctionDecl.parametersOf_of_plain plain,
    FunctionDecl.literalLimit_of_untagged untagged, FunctionDecl.has_of_untagged untagged,
    FunctionDecl.tag?_of_untagged untagged, noPage]
  cases shape.isMany with
  | true => rfl
  | false => rfl

theorem condition_of_plain : scope.condition function = .ok none := by
  simp only [condition, derivedCondition, FunctionDecl.values,
    FunctionDecl.parametersOf_of_plain plain, FunctionDecl.tag?_of_untagged untagged]
  rfl

end

theorem rows_of_entity {row : TypeUse} {columns : List String} {plan : ReadPlan}
    (entity : row.name = scope.entity.name ∨ row.target.isComposite = false)
    (success : scope.rows function row = .ok (columns, plan)) :
    columns = scope.table.columns.map Column.name ∧ scope.table.plan = some plan := by
  unfold rows at success
  dsimp only at success
  split at success
  case isTrue =>
    split at success
    case h_1 tablePlan found =>
      cases success
      exact ⟨rfl, found⟩
    case h_2 => cases success
  case isFalse other =>
    rw [entity.resolve_left other] at success
    cases success

theorem row_findAll {catalog : Catalog} {entity : ClassDecl} :
    (ReturnShape.of catalog (TypeUse.named "Vec" [{ target := entity }])).row.name =
        entity.name ∨
      (ReturnShape.of catalog
        (TypeUse.named "Vec" [{ target := entity }])).row.target.isComposite = false := by
  have noPage : (TypeUse.named "Vec" [{ target := entity }]).name.isPage = false :=
    noPage_list _
  cases collection : catalog.isCollection (TypeUse.named "Vec" [{ target := entity }]) with
  | true =>
      rw [(ReturnShape.of_collection noPage collection).2]
      exact .inl rfl
  | false =>
      rw [(ReturnShape.of_single noPage collection).2]
      exact .inr rfl

theorem written_selectAll (options : Options) (table : Table) (columns : List String)
    (isMany : Bool) (rows : Nat) :
    SqlText.written options.markers {}
        ((Statement.select columns none (cappedSuffix isMany rows)).text options table) =
      "SELECT " ++ ", ".intercalate (columns.map options.quote) ++ " FROM "
        ++ table.ref options ++ (if isMany then "" else s!" LIMIT {rows}") := by
  have tail : SqlText.written options.markers {} (cappedSuffix isMany rows).text =
      if isMany then "" else s!" LIMIT {rows}" := by
    cases isMany with
    | true => rfl
    | false => exact SqlText.written_single _ _ _
  unfold Statement.text
  simp only [Condition.clause, List.cons_append, List.nil_append, SqlText.written_text, tail]

theorem bindAll_selectAll (options : Options) (table : Table) (columns : List String)
    (isMany : Bool) (rows : Nat) :
    SqlText.bindAll options.markers {}
        ((Statement.select columns none (cappedSuffix isMany rows)).text options table) =
      {} := by
  cases isMany with
  | true => rfl
  | false => rfl

/-- A compiled `find_all` selects all columns in their order and reads them with the
plan of the table. -/
theorem compiled_findAll (base : function ∈ Repository.baseFunctions scope.entity)
    (name : function.name = "find_all") (lists : scope.catalog.ReadsLists)
    (compiled : scope.compile function = .ok method) :
    method.archetype = .finder ∧
      method.sql =
        "SELECT " ++ ", ".intercalate
            ((scope.table.columns.map Column.name).map scope.options.quote)
          ++ " FROM " ++ scope.table.ref scope.options
          ++ (if method.returnsCollection then ""
            else s!" LIMIT {scope.options.singleResultCap.toNat}") ∧
      method.slots = [] ∧
      method.plan = scope.table.plan := by
  have finder := archetype_findAll base name lists
  obtain ⟨draft, success, rfl⟩ := compile_eq_ok_iff.mp compiled
  have drafted := drafted_of_draft success
  obtain rfl := Repository.eq_findAll base name
  cases drafted with
  | @find columns plan suffix condition _ rows suffixSuccess conditionSuccess =>
      obtain rfl := Except.ok.inj ((condition_of_plain rfl rfl).symm.trans conditionSuccess)
      have noPage : (ReturnShape.of scope.catalog
          (TypeUse.named "Vec" [{ target := scope.entity }])).isPage = false :=
        noPage_list [{ target := scope.entity }]
      obtain rfl := Except.ok.inj ((suffix_of_plain rfl rfl noPage).symm.trans suffixSuccess)
      obtain ⟨rfl, found⟩ := rows_of_entity row_findAll rows
      refine ⟨rfl, ?_, ?_, found.symm⟩
      · exact written_selectAll _ _ _ _ _
      · exact (Draft.finish_slots _ _ _).trans
          (congrArg Binding.slots (bindAll_selectAll _ _ _ _ _))
  | save other => cases other.symm.trans finder
  | deleteEntity other => cases other.symm.trans finder
  | deleteRows other deletes =>
      rcases deletes with rfl | rfl
      · cases other.symm.trans finder
      · cases other.symm.trans finder
  | value other asks =>
      rcases asks with ⟨rfl, _⟩ | ⟨rfl, _⟩
      · cases other.symm.trans finder
      · cases other.symm.trans finder
  | custom other => cases other.symm.trans finder

end Scope

end RowPlan
