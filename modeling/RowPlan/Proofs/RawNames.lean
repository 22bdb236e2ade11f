import RowPlan.Proofs.MemberNames
import RowPlan.Proofs.TextParameters

/-!
# Raw names

An identifier can be written with a mark before it that makes it a name also where it is a keyword,
and it is the same name then. In a file the mark is part of the name: two files that differ in such
marks have the same model but for the marks, and the same model only if the marks are on names that
are not read. The name with the mark is no name that a given text could hold.
-/

namespace RowPlan

/-- The name without the mark of a raw identifier. -/
def plainName (name : String) : String :=
  match name.toList with
  | 'r' :: '#' :: rest => String.ofList rest
  | _ => name

/-- The name as a raw identifier. -/
def rawName (name : String) : String :=
  String.ofList ('r' :: '#' :: name.toList)

theorem plainName_rawName (name : String) : plainName (rawName name) = name := by
  rw [rawName, plainName, String.toList_ofList]
  exact String.ofList_toList

/-! ## Names that are read -/

/-- The name of a function and those of its parameters. -/
def FunctionTree.names (tree : FunctionTree) : String × List (Option String) :=
  (tree.name, tree.parameters.map ParameterTree.name)

/-- The names of the fields of a struct. -/
def FieldsTree.names : FieldsTree → List String
  | .named trees => trees.map FieldTree.name
  | .unnamed => []
  | .none => []

/-- The names of the fields of an item that is a class. -/
def ItemTree.fieldNames? : ItemTree → Option (List String)
  | .struct item => some item.fields.names
  | .enum _ => some []
  | _ => none

/-- The names of the functions of an item that is a repository, with those of parameters. -/
def ItemTree.functionNames? : ItemTree → Option (List (String × List (Option String)))
  | .trait item =>
      if item.isRepository then some (item.functions.map FunctionTree.names) else none
  | _ => none

/-- The names of fields, functions and parameters that are read are spelled alike. -/
structure SpelledAlike (items others : List ItemTree) : Prop where
  fields : (ItemTree.leavesOfAll items).filterMap ItemTree.fieldNames? =
    (ItemTree.leavesOfAll others).filterMap ItemTree.fieldNames?
  functions : (ItemTree.leavesOfAll items).filterMap ItemTree.functionNames? =
    (ItemTree.leavesOfAll others).filterMap ItemTree.functionNames?

def ClassDecl.fieldNames (cls : ClassDecl) : List String :=
  cls.fields.map FieldDecl.name

def FunctionDecl.names (function : FunctionDecl) : String × List (Option String) :=
  (function.name, function.parameters.map fun parameter => some parameter.name)

/-! ## Names in a model -/

namespace Declarations

variable {declarations : Declarations}

theorem name_of_fieldOf {tree : FieldTree} {use : Except Fault TypeUse} {field : FieldDecl}
    (success : Expansion.fieldOf tree use = .ok field) : field.name = tree.name := by
  obtain ⟨_, _, rfl⟩ := map_eq_ok_iff.mp success
  rfl

theorem names_of_fields {opened : List String} {trees : List FieldTree}
    {found : List FieldDecl} (success : declarations.fields opened trees = .ok found) :
    found.map FieldDecl.name = trees.map FieldTree.name := by
  have read := forall₂_of_fields success
  clear success
  induction read with
  | nil => rfl
  | cons here _ induction => rw [List.map_cons, List.map_cons, name_of_fieldOf here, induction]

theorem fieldNames_of_structClass {item : StructTree} {cls : ClassDecl}
    (success : declarations.structClass [] item = .ok cls) :
    cls.isInterface = false ∧ cls.fieldNames = item.fields.names := by
  rw [Expansion.structClass_eq] at success
  obtain ⟨tags, _, success⟩ := bind_eq_ok_iff.mp success
  split at success
  case h_1 shape =>
    cases success
    rw [shape]
    exact ⟨rfl, rfl⟩
  case h_2 => cases success
  case h_3 trees shape =>
    obtain ⟨found, together, rfl⟩ := map_eq_ok_iff.mp success
    rw [shape]
    exact ⟨rfl, names_of_fields (Checked.together_eq_ok_iff.mp together)⟩

theorem name_of_parameter {tree : ParameterTree} {parameter : ParameterDecl}
    (success : declarations.parameter tree = .ok parameter) : tree.name = some parameter.name := by
  unfold Declarations.parameter at success
  split at success
  · cases success
  · next name named =>
      obtain ⟨_, _, rfl⟩ := map_eq_ok_iff.mp success
      exact named

theorem names_of_function {tree : FunctionTree} {function : FunctionDecl}
    (success : declarations.function tree = .ok function) : function.names = tree.names := by
  obtain ⟨⟨returnType, tags, parameters⟩, both, rfl⟩ :=
    map_eq_ok_iff.mp (Checked.together_eq_ok_iff.mp success)
  have all := (Checked.both_eq_ok_iff.mp (Checked.both_eq_ok_iff.mp both).2).2
  have named : (parameters.map fun parameter => some parameter.name) =
      tree.parameters.map ParameterTree.name :=
    map_eq_of_map_ok (fun _ _ found => (name_of_parameter found).symm)
      (Checked.all_eq_ok_iff.mp all)
  exact congrArg (Prod.mk tree.name) named

theorem functionNames_of_repository {item : TraitTree} {cls : ClassDecl}
    (success : declarations.repository item = .ok cls) :
    cls.isInterface = true ∧
      cls.functions.map FunctionDecl.names = item.functions.map FunctionTree.names := by
  obtain ⟨⟨tags, argument, functions⟩, both, rfl⟩ :=
    map_eq_ok_iff.mp (Checked.together_eq_ok_iff.mp success)
  have all := (Checked.both_eq_ok_iff.mp (Checked.both_eq_ok_iff.mp both).2).2
  refine ⟨rfl, map_eq_of_map_ok (fun _ _ found => ?_) (Checked.all_eq_ok_iff.mp all)⟩
  exact names_of_function (Checked.of_eq_ok_iff.mp found)

end Declarations

namespace SourceModel

/-- What an item is read as is a class with the names of its fields, or a repository with those of
its functions. -/
theorem names_of_classOfItem? {declarations : Declarations} {leaf : ItemTree} {cls : ClassDecl}
    (read : classOfItem? declarations leaf = some (.ok cls)) :
    (cls.isInterface = false ∧ leaf.fieldNames? = some cls.fieldNames ∧
        leaf.functionNames? = none) ∨
      (cls.isInterface = true ∧ leaf.fieldNames? = none ∧
        leaf.functionNames? = some (cls.functions.map FunctionDecl.names)) := by
  cases leaf with
  | struct item =>
      obtain ⟨plain, named⟩ := Declarations.fieldNames_of_structClass (Option.some.inj read)
      exact .inl ⟨plain, congrArg some named.symm, rfl⟩
  | enum item =>
      cases Except.ok.inj (Option.some.inj read)
      exact .inl ⟨rfl, rfl, rfl⟩
  | trait item =>
      simp only [classOfItem?] at read
      split at read
      · next repository =>
          obtain ⟨interface, named⟩ :=
            Declarations.functionNames_of_repository (Option.some.inj read)
          refine .inr ⟨interface, rfl, ?_⟩
          rw [ItemTree.functionNames?, if_pos repository, named]
      · cases read
  | module items => cases read
  | other => cases read

theorem names_of_unread {declarations : Declarations} {leaf : ItemTree}
    (unread : classOfItem? declarations leaf = none) :
    leaf.fieldNames? = none ∧ leaf.functionNames? = none := by
  cases leaf with
  | struct item => cases unread
  | enum item => cases unread
  | trait item =>
      simp only [classOfItem?] at unread
      split at unread
      · cases unread
      · next other => exact ⟨rfl, if_neg other⟩
  | module items => exact ⟨rfl, rfl⟩
  | other => exact ⟨rfl, rfl⟩

theorem names_of_all {declarations : Declarations} {leaves : List ItemTree}
    {found : List ClassDecl}
    (all : ((leaves.filterMap (classOfItem? declarations)).map Checked.of) = found.map .ok) :
    (found.filter fun cls => !cls.isInterface).map ClassDecl.fieldNames =
        leaves.filterMap ItemTree.fieldNames? ∧
      (found.filter fun cls => cls.isInterface).map
          (fun cls => cls.functions.map FunctionDecl.names) =
        leaves.filterMap ItemTree.functionNames? := by
  induction leaves generalizing found with
  | nil =>
      obtain rfl := List.map_eq_nil_iff.mp all.symm
      exact ⟨rfl, rfl⟩
  | cons leaf rest induction =>
      cases read : classOfItem? declarations leaf with
      | none =>
          rw [List.filterMap_cons_none read] at all
          obtain ⟨noFields, noFunctions⟩ := names_of_unread read
          rw [List.filterMap_cons_none noFields, List.filterMap_cons_none noFunctions]
          exact induction all
      | some result =>
          rw [List.filterMap_cons_some read, List.map_cons] at all
          obtain ⟨cls, others, rfl, success, othersRead⟩ := List.map_eq_cons_iff.mp all.symm
          cases Checked.of_eq_ok_iff.mp success.symm
          obtain ⟨fields, functions⟩ := induction othersRead.symm
          rcases names_of_classOfItem? read with ⟨plain, named, none⟩ | ⟨interface, none, named⟩
          · rw [List.filterMap_cons_some named, List.filterMap_cons_none none, ← fields,
              ← functions]
            simp [plain]
          · rw [List.filterMap_cons_some named, List.filterMap_cons_none none, ← fields,
              ← functions]
            simp [interface]

variable {items others : List ItemTree} {model : SourceModel}

/-- A model has the names that are read, as they are written. -/
theorem names_of_ofItems (read : ofItems items = .ok model) :
    model.classes.map ClassDecl.fieldNames =
        (ItemTree.leavesOfAll items).filterMap ItemTree.fieldNames? ∧
      model.repositories.map (fun cls => cls.functions.map FunctionDecl.names) =
        (ItemTree.leavesOfAll items).filterMap ItemTree.functionNames? := by
  obtain ⟨found, all, repositories, classes⟩ := ofItems_eq_ok read
  rw [classes, repositories]
  exact names_of_all (Checked.all_eq_ok_iff.mp all)

end SourceModel

/-! ## Files that differ in spelling -/

theorem eq_of_map_eq {α β γ : Type} {first : α → β} {second : α → γ}
    (determined : ∀ value other, first value = first other → second value = second other →
      value = other)
    {left right : List α} (same : left.map first = right.map first)
    (alsoSame : left.map second = right.map second) : left = right := by
  induction left generalizing right with
  | nil => exact (List.map_eq_nil_iff.mp same.symm).symm
  | cons value rest induction =>
      cases right with
      | nil => cases same
      | cons other more =>
          obtain ⟨here, later⟩ := List.cons.inj same
          obtain ⟨alsoHere, alsoLater⟩ := List.cons.inj alsoSame
          rw [determined value other here alsoHere, induction later alsoLater]

section

variable {spell : String → String}

theorem FieldTree.eq_of_respell (tree other : FieldTree)
    (alike : tree.respell spell = other.respell spell) (named : tree.name = other.name) :
    tree = other := by
  cases tree
  cases other
  cases named
  cases alike
  rfl

theorem ParameterTree.eq_of_respell (tree other : ParameterTree)
    (alike : tree.respell spell = other.respell spell) (named : tree.name = other.name) :
    tree = other := by
  cases tree
  cases other
  cases named
  cases alike
  rfl

theorem FunctionTree.eq_of_respell (tree other : FunctionTree)
    (alike : tree.respell spell = other.respell spell) (named : tree.names = other.names) :
    tree = other := by
  have parameters : tree.parameters = other.parameters :=
    eq_of_map_eq ParameterTree.eq_of_respell (congrArg FunctionTree.parameters alike)
      (congrArg Prod.snd named)
  obtain ⟨attributes, name, _, returnType, hasBody⟩ := tree
  obtain ⟨_, _, _, _, _⟩ := other
  cases parameters
  cases congrArg Prod.fst named
  cases alike
  rfl

theorem StructTree.eq_of_respell {item other : StructTree}
    (alike : item.respell spell = other.respell spell)
    (named : item.fields.names = other.fields.names) : item = other := by
  obtain ⟨attributes, name, fields⟩ := item
  obtain ⟨_, _, otherFields⟩ := other
  obtain ⟨rfl, rfl, shape⟩ := StructTree.mk.inj alike
  have same : fields = otherFields := by
    cases fields with
    | named trees =>
        cases otherFields with
        | named others =>
            exact congrArg FieldsTree.named
              (eq_of_map_eq FieldTree.eq_of_respell (FieldsTree.named.inj shape) named)
        | unnamed => cases shape
        | none => cases shape
    | unnamed =>
        cases otherFields with
        | unnamed => rfl
        | named | none => cases shape
    | none =>
        cases otherFields with
        | none => rfl
        | named | unnamed => cases shape
  rw [same]

theorem TraitTree.eq_of_respell {item other : TraitTree}
    (alike : item.respell spell = other.respell spell)
    (named : item.functions.map FunctionTree.names = other.functions.map FunctionTree.names) :
    item = other := by
  have functions : item.functions = other.functions :=
    eq_of_map_eq FunctionTree.eq_of_respell (congrArg TraitTree.functions alike) named
  obtain ⟨attributes, name, bounds, _⟩ := item
  obtain ⟨_, _, _, _⟩ := other
  cases functions
  cases alike
  rfl

/-- The item, if it is read. -/
def ItemTree.read? : ItemTree → Option ItemTree
  | .struct item => some (.struct item)
  | .enum item => some (.enum item)
  | .trait item => if item.isRepository then some (.trait item) else none
  | _ => none

theorem ItemTree.fieldNames?_isSome_respell (spell : String → String) (leaf : ItemTree) :
    (leaf.respell spell).fieldNames?.isSome = leaf.fieldNames?.isSome := by
  cases leaf with
  | struct | enum | trait | module | other => rfl

theorem ItemTree.functionNames?_isSome_respell (spell : String → String) (leaf : ItemTree) :
    (leaf.respell spell).functionNames?.isSome = leaf.functionNames?.isSome := by
  cases leaf with
  | trait item =>
      have same : (item.respell spell).isRepository = item.isRepository := rfl
      rw [ItemTree.respell, ItemTree.functionNames?, ItemTree.functionNames?, same]
      cases item.isRepository with
      | true => rfl
      | false => rfl
  | struct | enum | module | other => rfl

theorem ItemTree.read?_eq_of_respell {leaf found : ItemTree}
    (alike : leaf.respell spell = found.respell spell)
    (fields : leaf.fieldNames? = found.fieldNames?)
    (functions : leaf.functionNames? = found.functionNames?) : leaf.read? = found.read? := by
  cases leaf with
  | struct item =>
      cases found with
      | struct second =>
          rw [StructTree.eq_of_respell (ItemTree.struct.inj alike) (Option.some.inj fields)]
      | enum | trait | module | other => cases alike
  | enum item =>
      cases found with
      | enum second =>
          cases alike
          rfl
      | struct | trait | module | other => cases alike
  | trait item =>
      cases found with
      | trait second =>
          have alike := ItemTree.trait.inj alike
          have same : item.isRepository = second.isRepository :=
            (congrArg TraitTree.isRepository alike :)
          rw [ItemTree.functionNames?, ItemTree.functionNames?, same] at functions
          rw [ItemTree.read?, ItemTree.read?, same]
          split at functions
          · rw [TraitTree.eq_of_respell alike (Option.some.inj functions)]
          · next other => rw [if_neg other, if_neg other]
      | struct | enum | module | other => cases alike
  | module items =>
      cases found with
      | module others => rfl
      | struct | enum | trait | other => cases alike
  | other =>
      cases found with
      | other => rfl
      | struct | enum | trait | module => cases alike

theorem filterMap_cons_inj {α β : Type} {pick : α → Option β} {value other : α}
    {rest more : List α} (aligned : (pick value).isSome = (pick other).isSome)
    (same : (value :: rest).filterMap pick = (other :: more).filterMap pick) :
    pick value = pick other ∧ rest.filterMap pick = more.filterMap pick := by
  rw [List.filterMap_cons, List.filterMap_cons] at same
  cases found : pick value with
  | none =>
      cases second : pick other with
      | none =>
          rw [found, second] at same
          exact ⟨rfl, same⟩
      | some image =>
          rw [found, second] at aligned
          cases aligned
  | some image =>
      cases second : pick other with
      | none =>
          rw [found, second] at aligned
          cases aligned
      | some otherImage =>
          rw [found, second] at same
          obtain ⟨here, later⟩ := List.cons.inj same
          exact ⟨congrArg some here, later⟩

/-- Items that differ in spelling alone are the same if the names that are read are. -/
theorem filterMap_read?_eq {leaves others : List ItemTree}
    (alike : leaves.map (ItemTree.respell spell) = others.map (ItemTree.respell spell))
    (fields : leaves.filterMap ItemTree.fieldNames? = others.filterMap ItemTree.fieldNames?)
    (functions : leaves.filterMap ItemTree.functionNames? =
      others.filterMap ItemTree.functionNames?) :
    leaves.filterMap ItemTree.read? = others.filterMap ItemTree.read? := by
  induction leaves generalizing others with
  | nil =>
      cases List.map_eq_nil_iff.mp alike.symm
      rfl
  | cons leaf rest induction =>
      cases others with
      | nil => cases alike
      | cons found more =>
          obtain ⟨here, later⟩ := List.cons.inj alike
          -- Respelling keeps which items have names, so the two lists of names go in step.
          have fieldsAligned : leaf.fieldNames?.isSome = found.fieldNames?.isSome := by
            rw [← leaf.fieldNames?_isSome_respell spell, here,
              found.fieldNames?_isSome_respell spell]
          have functionsAligned : leaf.functionNames?.isSome = found.functionNames?.isSome := by
            rw [← leaf.functionNames?_isSome_respell spell, here,
              found.functionNames?_isSome_respell spell]
          obtain ⟨sameFields, laterFields⟩ := filterMap_cons_inj fieldsAligned fields
          obtain ⟨sameFunctions, laterFunctions⟩ := filterMap_cons_inj functionsAligned functions
          rw [List.filterMap_cons, List.filterMap_cons,
            ItemTree.read?_eq_of_respell here sameFields sameFunctions,
            induction later laterFields laterFunctions]

end

/-! ## Parameters with raw names -/

/-- No given text can hold a placeholder for a parameter with a raw name. -/
theorem Scope.bindText_of_raw {scope : Scope} {function : FunctionDecl} {name : String}
    (member : rawName name ∈ function.valueNames) (text : String) (bound : SqlText) :
    scope.bindText function text ≠ .ok bound := by
  intro success
  obtain ⟨_, _, success⟩ := bind_eq_ok_iff.mp success
  obtain ⟨_, used, _⟩ := bind_eq_ok_iff.mp success
  have mentioned : Mentions text (rawName name) := by
    by_contra unmentioned
    have unused := FunctionDecl.checkUsed_of_unused
      ⟨rawName name, member, fun among => unmentioned (mentions_iff.mpr among)⟩
    cases used.symm.trans unused
  have mark : '#' ∈ (rawName name).toList := by
    rw [rawName, String.toList_ofList]
    exact List.mem_cons_of_mem _ List.mem_cons_self
  obtain ⟨before, after, placeholder⟩ := mentioned
  exact absurd (placeholder.run.parts '#' mark) (by decide)

/-! ## Models of two files -/

namespace SourceModel

theorem filterMap_read? {α : Type} {pick : ItemTree → Option α}
    (unread : ∀ leaf, leaf.read? = none → pick leaf = none) (leaves : List ItemTree) :
    (leaves.filterMap ItemTree.read?).filterMap pick = leaves.filterMap pick := by
  rw [List.filterMap_filterMap]
  congr 1
  funext leaf
  cases read : leaf.read? with
  | none => exact (unread leaf read).symm
  | some found =>
      have same : found = leaf := by
        cases leaf with
        | struct | enum =>
            cases read
            rfl
        | trait item =>
            rw [ItemTree.read?] at read
            split at read
            · cases read
              rfl
            · cases read
        | module | other => cases read
      rw [same]
      rfl

theorem classOfItem?_of_unread (declarations : Declarations) {leaf : ItemTree}
    (unread : leaf.read? = none) : classOfItem? declarations leaf = none := by
  cases leaf with
  | struct | enum => cases unread
  | trait item =>
      rw [ItemTree.read?] at unread
      split at unread
      · cases unread
      · next other => exact if_neg other
  | module | other => rfl

theorem struct?_of_unread {leaf : ItemTree} (unread : leaf.read? = none) :
    leaf.struct? = none ∧ leaf.enum? = none := by
  cases leaf with
  | struct | enum => cases unread
  | trait | module | other => exact ⟨rfl, rfl⟩

theorem filterMap_eq_of_read? {α : Type} {pick : ItemTree → Option α}
    {leaves others : List ItemTree}
    (unread : ∀ leaf : ItemTree, leaf.read? = none → pick leaf = none)
    (same : leaves.filterMap ItemTree.read? = others.filterMap ItemTree.read?) :
    leaves.filterMap pick = others.filterMap pick := by
  rw [← filterMap_read? unread, same, filterMap_read? unread]

/-- Items that are not read do not matter. -/
theorem readLeaves_eq_of_read? {items others : List ItemTree}
    (same : (ItemTree.leavesOfAll items).filterMap ItemTree.read? =
      (ItemTree.leavesOfAll others).filterMap ItemTree.read?) :
    readLeaves items = readLeaves others := by
  have declarations : declared items = declared others :=
    congrArg₂ Declarations.mk
      (filterMap_eq_of_read? (fun _ unread => (struct?_of_unread unread).1) same)
      (filterMap_eq_of_read? (fun _ unread => (struct?_of_unread unread).2) same)
  rw [readLeaves, readLeaves, declarations,
    filterMap_eq_of_read? (fun _ => classOfItem?_of_unread (declared others)) same]

variable {items others : List ItemTree}

/-- Files that differ in spelling alone have the same model exactly if the names that are read are
spelled alike, or they have no model. -/
theorem ofItems_eq_iff_spelledAlike {spell : String → String}
    (alike : ItemTree.respellAll spell items = ItemTree.respellAll spell others) :
    ofItems items = ofItems others ↔
      (∃ fault, ofItems items = .error fault) ∨ SpelledAlike items others := by
  constructor
  · intro same
    cases read : ofItems items with
    | error fault => exact .inl ⟨fault, rfl⟩
    | ok model =>
        have names := names_of_ofItems read
        have otherNames := names_of_ofItems (same.symm.trans read)
        exact .inr ⟨names.1.symm.trans otherNames.1, names.2.symm.trans otherNames.2⟩
  · have respelled : (ofItems items).map (SourceModel.respell spell) =
        (ofItems others).map (SourceModel.respell spell) := by
      rw [← ofItems_respell, ← ofItems_respell, alike]
    rintro (⟨fault, failed⟩ | ⟨fields, functions⟩)
    · rw [failed] at respelled
      rw [failed, map_eq_error_iff.mp respelled.symm]
    · have leaves : (ItemTree.leavesOfAll items).map (ItemTree.respell spell) =
          (ItemTree.leavesOfAll others).map (ItemTree.respell spell) := by
        rw [← ItemTree.leavesOfAll_respell, ← ItemTree.leavesOfAll_respell, alike]
      rw [ofItems_eq, ofItems_eq,
        readLeaves_eq_of_read? (filterMap_read?_eq leaves fields functions)]

theorem ofText_eq {text : String} (read : ItemTree.ofText? text.toList = some items) :
    ofText text = (ofItems items).mapError SourceError.faulty := by
  rw [ofText, read]

/-- Two texts whose items differ only in the marks of raw names of fields, functions and parameters
have the same model but for these marks. It is the same model exactly if no name that is read has
the mark in one of them alone. With the mark on the name of a value no given text can be bound. -/
theorem ofText_eq_iff_spelledAlike {text other : String}
    (read : ItemTree.ofText? text.toList = some items)
    (otherRead : ItemTree.ofText? other.toList = some others)
    (alike : ItemTree.respellAll plainName items = ItemTree.respellAll plainName others) :
    (ofText text).map (SourceModel.respell plainName) =
        (ofText other).map (SourceModel.respell plainName) ∧
      (ofText text = ofText other ↔
        (∃ error, ofText text = .error error) ∨ SpelledAlike items others) ∧
      ∀ (scope : Scope) (function : FunctionDecl) (name : String),
        rawName name ∈ function.valueNames →
          ∀ given bound, scope.bindText function given ≠ .ok bound := by
  have unbound : ∀ (scope : Scope) (function : FunctionDecl) (name : String),
      rawName name ∈ function.valueNames →
        ∀ given bound, scope.bindText function given ≠ .ok bound := by
    intro scope function name member
    exact Scope.bindText_of_raw member
  have respelled : (ofItems items).map (SourceModel.respell plainName) =
      (ofItems others).map (SourceModel.respell plainName) := by
    rw [← ofItems_respell, ← ofItems_respell, alike]
  have same := ofItems_eq_iff_spelledAlike alike
  rw [ofText_eq read, ofText_eq otherRead]
  cases found : ofItems items with
  | error fault =>
      rw [found] at respelled
      rw [map_eq_error_iff.mp respelled.symm]
      exact ⟨rfl, iff_of_true rfl (.inl ⟨_, rfl⟩), unbound⟩
  | ok model =>
      cases otherFound : ofItems others with
      | error fault =>
          rw [found, otherFound] at respelled
          cases respelled
      | ok otherModel =>
          rw [found, otherFound] at respelled same
          have plain : model.respell plainName = otherModel.respell plainName :=
            Except.ok.inj respelled
          refine ⟨congrArg Except.ok plain, ?_, unbound⟩
          simpa [Except.mapError] using same

end SourceModel

/-! ### Two texts of a car -/

theorem ItemTree.ofText?_of_tokens {text : List Char} {tokens : List Token}
    {items : List ItemTree}
    (cut : Token.ofText? (dropByteOrderMark (dropInterpreter (dropByteOrderMark text))) =
      some tokens)
    (parsed : (Parser.run Grammar.file tokens).toOption = some items) :
    ItemTree.ofText? text = some items := by
  simp only [ItemTree.ofText?, cut]
  exact parsed

namespace Car

/-- The text of a car with a field of a name. -/
def keyedText (name : String) : String :=
  "struct Car \x7b " ++ name ++ ": i64 \x7d"

/-- The tokens of the text. -/
def keyedTokens (name : String) : List Token :=
  [.word "struct", .word "Car", .group .brace [.word name, .mark ':' false, .word "i64"]]

/-- The items of the text. -/
def keyed (name : String) : List ItemTree :=
  [.struct ⟨[], "Car", .named [⟨[], name, .path .plain [.segment "i64" none]⟩]⟩]

theorem keyed_alike {name : String} (plain : plainName name = name) :
    ItemTree.respellAll plainName (keyed name) =
      ItemTree.respellAll plainName (keyed (rawName name)) := by
  have spelled : ∀ other, ItemTree.respellAll plainName (keyed other) = keyed (plainName other) :=
    fun _ => rfl
  rw [spelled, spelled, plain, plainName_rawName]

theorem keyed_plain : ItemTree.ofText? (keyedText "id").toList = some (keyed "id") := by
  have cut : Token.ofText? (dropByteOrderMark (dropInterpreter
      (dropByteOrderMark (keyedText "id").toList))) = some (keyedTokens "id") := by
    rw [keyedText, String.toList_append, String.toList_append]
    rfl
  exact ItemTree.ofText?_of_tokens cut rfl

theorem keyed_raw :
    ItemTree.ofText? (keyedText (rawName "id")).toList = some (keyed (rawName "id")) := by
  have cut : Token.ofText? (dropByteOrderMark (dropInterpreter
      (dropByteOrderMark (keyedText (rawName "id")).toList))) =
        some (keyedTokens (rawName "id")) := by
    rw [keyedText, String.toList_append, String.toList_append, rawName, String.toList_ofList]
    rfl
  exact ItemTree.ofText?_of_tokens cut rfl

/-- Finds a car by its key, with the mark of a raw name. -/
def findRaw : FunctionDecl where
  name := "find_raw"
  parameters := [⟨rawName "id", .named "i64", []⟩]
  returnType := .named "Car"

end Car

/-- The key keeps its mark in the model, and no text finds a car by such a key. -/
theorem SourceModel.ofText_eq_iff_spelledAlike_car :
    ItemTree.respellAll plainName (Car.keyed "id") =
        ItemTree.respellAll plainName (Car.keyed (rawName "id")) ∧
      ¬ SpelledAlike (Car.keyed "id") (Car.keyed (rawName "id")) ∧
      (ofText (Car.keyedText "id")).map (SourceModel.respell plainName) =
        (ofText (Car.keyedText (rawName "id"))).map (SourceModel.respell plainName) ∧
      Car.findRaw.valueNames = [rawName "id"] ∧
      ∀ given bound, Car.scope.bindText Car.findRaw given ≠ .ok bound := by
  have alike : ItemTree.respellAll plainName (Car.keyed "id") =
      ItemTree.respellAll plainName (Car.keyed (rawName "id")) := Car.keyed_alike rfl
  obtain ⟨respelled, _, unbound⟩ := ofText_eq_iff_spelledAlike Car.keyed_plain Car.keyed_raw alike
  have names : Car.findRaw.valueNames = [rawName "id"] := rfl
  refine ⟨alike, fun spelled => absurd spelled.fields (by decide), respelled, names, ?_⟩
  exact unbound Car.scope Car.findRaw "id" (names ▸ List.mem_cons_self)

/-- The key of a car is read with the mark of its raw name. -/
theorem Car.raw_key_differs :
    SourceModel.ofText (keyedText (rawName "id")) ≠ SourceModel.ofText (keyedText "id") := by
  have marked : SourceModel.ofItems (keyed (rawName "id")) = .ok
      ⟨[{ name := .bare "Car", fields := [⟨rawName "id", .named "i64", []⟩] }], []⟩ := by
    cbv
  have plain : SourceModel.ofItems (keyed "id") = .ok
      ⟨[{ name := .bare "Car", fields := [⟨"id", .named "i64", []⟩] }], []⟩ := by
    cbv
  rw [SourceModel.ofText_eq keyed_raw, SourceModel.ofText_eq keyed_plain, marked, plain]
  simp [Except.mapError, rawName]

end RowPlan
