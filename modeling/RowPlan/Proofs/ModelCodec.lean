import RowPlan.Proofs.OmittedParts

/-!
# Rereading class models and options

Every class model and every options value is read back from what is written for it, also
where parts that have their defaults are taken out of any records in it. The records of a
class model are read one inside the other, so that the proofs follow the model.
-/

namespace RowPlan

open Json

/-! ## Readers by their parts -/

/-- Reads a type, or nothing. -/
def optionalType? (json : Json) : Option (Option TypeUse) :=
  match json with
  | .null => some none
  | _ => (TypeUse.ofJson? json).map some

section

variable {α β : Type} {whole : Json} (part : Option (Part whole))

theorem bind_readOr_listOf? (decode : Json → Option α) (next : List α → Option β) :
    (match part with
      | none => some [] >>= next
      | some ⟨list, _⟩ => do
          let items ← list.items?
          (items.mapM fun ⟨item, _⟩ => decode item) >>= next) =
      readOr [] (listOf? decode) part >>= next := by
  cases part with
  | none => rfl
  | some found =>
      obtain ⟨list, smaller⟩ := found
      rw [readOr, ← items?_mapM]
      exact (Option.bind_assoc _ _ _).symm

theorem bind_required (decode : Json → Option α) (next : α → Option β) :
    (match part with
      | none => none >>= next
      | some ⟨json, _⟩ => decode json >>= next) =
      part >>= fun part => decode part.val >>= next := by
  cases part with
  | none => rfl
  | some found => rfl

end

theorem ClassDecl.ofJson?_eq (json : Json) :
    ClassDecl.ofJson? json = do
      let part ← json.record? ["name", "fields", "annotations", "functions", "is_interface",
        "is_enum", "superclass_parameter"]
      let name ← QualifiedName.ofJson? (← part "name").val
      let fields ← readOr [] (listOf? FieldDecl.ofJson?) (part "fields")
      let tags ← readOr [] (listOf? Tag.ofJson?) (part "annotations")
      let functions ← readOr [] (listOf? FunctionDecl.ofJson?) (part "functions")
      let isInterface ← readOr false bool? (part "is_interface")
      let isEnum ← readOr false bool? (part "is_enum")
      let argument ← readOr none optionalType? (part "superclass_parameter")
      return { name, fields, tags, functions, isInterface, isEnum, argument } := by
  rw [ClassDecl.ofJson?]
  refine Option.bind_congr fun part _ => Option.bind_congr fun name _ =>
    Option.bind_congr fun name _ => ?_
  refine (bind_readOr_listOf? (part "fields") _ _).trans (Option.bind_congr fun fields _ => ?_)
  refine Option.bind_congr fun tags _ => ?_
  refine (bind_readOr_listOf? (part "functions") _ _).trans
    (Option.bind_congr fun functions _ => ?_)
  refine Option.bind_congr fun isInterface _ => Option.bind_congr fun isEnum _ => ?_
  cases part "superclass_parameter" with
  | none => rfl
  | some found =>
      obtain ⟨json, smaller⟩ := found
      -- Either reader looks for `null` before it reads a type.
      cases json <;> rfl

theorem TypeUse.ofJson?_eq (json : Json) :
    TypeUse.ofJson? json = do
      let part ← json.record? ["klass", "nullability", "parameters"]
      let target ← ClassDecl.ofJson? (← part "klass").val
      let nullable ← readOr false nullabilityOfJson? (part "nullability")
      let arguments ← readOr [] (listOf? TypeUse.ofJson?) (part "parameters")
      return { target, nullable, arguments } := by
  rw [TypeUse.ofJson?]
  refine Option.bind_congr fun part _ => ?_
  refine (bind_required (part "klass") _ _).trans ?_
  refine Option.bind_congr fun cls _ => Option.bind_congr fun target _ =>
    Option.bind_congr fun nullable _ => ?_
  exact bind_readOr_listOf? (part "parameters") _ _

theorem FieldDecl.ofJson?_eq (json : Json) :
    FieldDecl.ofJson? json = do
      let part ← json.record? ["name", "type", "annotations"]
      let name ← (← part "name").val.string?
      let type ← TypeUse.ofJson? (← part "type").val
      let tags ← readOr [] (listOf? Tag.ofJson?) (part "annotations")
      return { name, type, tags } := by
  rw [FieldDecl.ofJson?]
  refine Option.bind_congr fun part _ => Option.bind_congr fun name _ =>
    Option.bind_congr fun name _ => ?_
  exact bind_required (part "type") _ _

theorem ParameterDecl.ofJson?_eq (json : Json) :
    ParameterDecl.ofJson? json = do
      let part ← json.record? ["name", "type", "annotations"]
      let name ← (← part "name").val.string?
      let type ← TypeUse.ofJson? (← part "type").val
      let tags ← readOr [] (listOf? Tag.ofJson?) (part "annotations")
      return { name, type, tags } := by
  rw [ParameterDecl.ofJson?]
  refine Option.bind_congr fun part _ => Option.bind_congr fun name _ =>
    Option.bind_congr fun name _ => ?_
  exact bind_required (part "type") _ _

theorem FunctionDecl.ofJson?_eq (json : Json) :
    FunctionDecl.ofJson? json = do
      let part ← json.record? ["name", "parameters", "return_type", "annotations", "is_abstract"]
      let name ← (← part "name").val.string?
      let parameters ← readOr [] (listOf? ParameterDecl.ofJson?) (part "parameters")
      let returnType ← TypeUse.ofJson? (← part "return_type").val
      let tags ← readOr [] (listOf? Tag.ofJson?) (part "annotations")
      let isAbstract ← readOr true bool? (part "is_abstract")
      return { name, parameters, returnType, tags, isAbstract } := by
  rw [FunctionDecl.ofJson?]
  refine Option.bind_congr fun part _ => Option.bind_congr fun name _ =>
    Option.bind_congr fun name _ => ?_
  refine (bind_readOr_listOf? (part "parameters") _ _).trans
    (Option.bind_congr fun parameters _ => ?_)
  exact bind_required (part "return_type") _ _

/-! ## Parts and small records -/

variable {json : Json}

theorem string?_of_plain {text : String} (short : Shortened .plain (.string text) json) :
    json.string? = some text := by
  rw [short.eq_of_plain]
  rfl

theorem bool?_of_plain {value : Bool} (short : Shortened .plain (.bool value) json) :
    json.bool? = some value := by
  rw [short.eq_of_plain]
  rfl

theorem nullabilityOfJson?_of_plain {nullable : Bool}
    (short : Shortened .plain (nullabilityJson nullable) json) :
    nullabilityOfJson? json = some nullable := by
  rw [short.eq_of_plain]
  cases nullable with
  | false => rfl
  | true => rfl

theorem paramsOfJson?_object (params : List (String × String)) :
    paramsOfJson? (.object (params.map fun (key, value) => (key, .string value))) =
      some params := by
  rw [paramsOfJson?, List.mapM_map]
  induction params with
  | nil => rfl
  | cons param rest induction =>
      rw [List.mapM_cons, induction]
      rfl

theorem QualifiedName.rereads (name : QualifiedName) :
    Rereads .name QualifiedName.toJson QualifiedName.ofJson? name := by
  intro json short
  obtain ⟨part, isRecord, parts⟩ := short.record_parts ["namespace", "name"] rfl (by decide)
  have scope : readOr "" string? (part "namespace") = some name.scope :=
    (parts "namespace" _ rfl).readOr_eq rfl rfl fun _ => string?_of_plain
  obtain ⟨text, found, shortText⟩ := (parts "name" _ rfl).required rfl
  rw [QualifiedName.ofJson?, isRecord]
  simp only [Option.bind_eq_bind, Option.bind_some, scope, found, string?_of_plain shortText]
  rfl

theorem Tag.rereads (tag : Tag) : Rereads .tag Tag.toJson Tag.ofJson? tag := by
  intro json short
  obtain ⟨part, isRecord, parts⟩ := short.record_parts ["name", "params"] rfl (by decide)
  obtain ⟨text, found, shortText⟩ := (parts "name" _ rfl).required rfl
  have params : readOr [] paramsOfJson? (part "params") = some tag.params := by
    refine (parts "params" _ rfl).readOr_eq rfl rfl fun json shortParams => ?_
    rw [shortParams.eq_of_plain, paramsOfJson?_object]
  rw [Tag.ofJson?, isRecord]
  simp only [Option.bind_eq_bind, Option.bind_some, params, found, string?_of_plain shortText]
  rfl

theorem tags_of_shortened {tags : List Tag}
    (short : Shortened (.records .tag) (.array (tags.map Tag.toJson)) json) :
    listOf? Tag.ofJson? json = some tags :=
  short.listOf?_eq fun tag _ => tag.rereads

/-! ## Class models -/

theorem fieldsJson_eq_map (fields : List FieldDecl) :
    fieldsJson fields = fields.map FieldDecl.toJson := by
  induction fields with
  | nil => rfl
  | cons field rest induction => rw [fieldsJson, induction, List.map_cons]

theorem functionsJson_eq_map (functions : List FunctionDecl) :
    functionsJson functions = functions.map FunctionDecl.toJson := by
  induction functions with
  | nil => rfl
  | cons function rest induction => rw [functionsJson, induction, List.map_cons]

theorem typesJson_eq_map (types : List TypeUse) :
    typesJson types = types.map TypeUse.toJson := by
  induction types with
  | nil => rfl
  | cons type rest induction => rw [typesJson, induction, List.map_cons]

theorem parametersJson_eq_map (parameters : List ParameterDecl) :
    parametersJson parameters = parameters.map ParameterDecl.toJson := by
  induction parameters with
  | nil => rfl
  | cons parameter rest induction => rw [parametersJson, induction, List.map_cons]

section

variable {name : String} {type : TypeUse} {tags : List Tag}

/-- Fields and parameters are written alike. -/
theorem typed_parts {kind : RecordKind} (typed : kind = .field ∨ kind = .parameter)
    (rereads : Rereads .type TypeUse.toJson TypeUse.ofJson? type)
    (short : Shortened (.record kind) (.object [("name", .string name), ("type", type.toJson),
      ("annotations", .array (tags.map Tag.toJson))]) json) :
    ∃ part here use, json.record? ["name", "type", "annotations"] = some part ∧
      part "name" = some here ∧ here.val.string? = some name ∧
      part "type" = some use ∧ TypeUse.ofJson? use.val = some type ∧
      readOr [] (listOf? Tag.ofJson?) (part "annotations") = some tags := by
  obtain ⟨part, isRecord, parts⟩ :=
    short.record_parts ["name", "type", "annotations"] rfl (by decide)
  have foundName := parts "name" _ rfl
  have foundType := parts "type" _ rfl
  have foundTags := parts "annotations" _ rfl
  rcases typed with rfl | rfl
  all_goals
    obtain ⟨here, found, shortName⟩ := foundName.required rfl
    obtain ⟨use, foundUse, shortType⟩ := foundType.required rfl
    exact ⟨part, here, use, isRecord, found, string?_of_plain shortName, foundUse,
      rereads use.val shortType,
      foundTags.readOr_eq rfl rfl fun _ => tags_of_shortened⟩

theorem FieldDecl.rereads_of_type (rereads : Rereads .type TypeUse.toJson TypeUse.ofJson? type) :
    Rereads .field FieldDecl.toJson FieldDecl.ofJson? ⟨name, type, tags⟩ := by
  intro json short
  rw [FieldDecl.toJson] at short
  obtain ⟨part, here, use, isRecord, foundName, readName, foundType, readType, readTags⟩ :=
    typed_parts (.inl rfl) rereads short
  rw [FieldDecl.ofJson?_eq, isRecord]
  simp only [Option.bind_eq_bind, Option.bind_some, foundName, readName, foundType, readType,
    readTags]
  rfl

theorem ParameterDecl.rereads_of_type
    (rereads : Rereads .type TypeUse.toJson TypeUse.ofJson? type) :
    Rereads .parameter ParameterDecl.toJson ParameterDecl.ofJson? ⟨name, type, tags⟩ := by
  intro json short
  rw [ParameterDecl.toJson] at short
  obtain ⟨part, here, use, isRecord, foundName, readName, foundType, readType, readTags⟩ :=
    typed_parts (.inr rfl) rereads short
  rw [ParameterDecl.ofJson?_eq, isRecord]
  simp only [Option.bind_eq_bind, Option.bind_some, foundName, readName, foundType, readType,
    readTags]
  rfl

theorem FunctionDecl.rereads_of_parts {parameters : List ParameterDecl} {isAbstract : Bool}
    (rereadsParameters : ∀ parameter, parameter ∈ parameters →
      Rereads .parameter ParameterDecl.toJson ParameterDecl.ofJson? parameter)
    (rereadsType : Rereads .type TypeUse.toJson TypeUse.ofJson? type) :
    Rereads .function FunctionDecl.toJson FunctionDecl.ofJson?
      ⟨name, parameters, type, tags, isAbstract⟩ := by
  intro json short
  rw [FunctionDecl.toJson, parametersJson_eq_map] at short
  obtain ⟨part, isRecord, parts⟩ := short.record_parts
    ["name", "parameters", "return_type", "annotations", "is_abstract"] rfl (by decide)
  obtain ⟨text, foundName, shortName⟩ := (parts "name" _ rfl).required rfl
  obtain ⟨use, foundType, shortType⟩ := (parts "return_type" _ rfl).required rfl
  have readName := string?_of_plain shortName
  have readType := rereadsType use.val shortType
  have readParameters :
      readOr [] (listOf? ParameterDecl.ofJson?) (part "parameters") = some parameters :=
    (parts "parameters" _ rfl).readOr_eq rfl rfl fun _ short =>
      short.listOf?_eq rereadsParameters
  have readTags : readOr [] (listOf? Tag.ofJson?) (part "annotations") = some tags :=
    (parts "annotations" _ rfl).readOr_eq rfl rfl fun _ => tags_of_shortened
  have readAbstract : readOr true bool? (part "is_abstract") = some isAbstract :=
    (parts "is_abstract" _ rfl).readOr_eq rfl rfl fun _ => bool?_of_plain
  rw [FunctionDecl.ofJson?_eq, isRecord]
  simp only [Option.bind_eq_bind, Option.bind_some, foundName, foundType, readName, readType,
    readParameters, readTags, readAbstract]
  rfl

theorem TypeUse.rereads_of_parts {target : ClassDecl} {nullable : Bool} {arguments : List TypeUse}
    (rereadsTarget : Rereads .cls ClassDecl.toJson ClassDecl.ofJson? target)
    (rereadsArguments : ∀ argument, argument ∈ arguments →
      Rereads .type TypeUse.toJson TypeUse.ofJson? argument) :
    Rereads .type TypeUse.toJson TypeUse.ofJson? ⟨target, nullable, arguments⟩ := by
  intro json short
  rw [TypeUse.toJson, typesJson_eq_map] at short
  obtain ⟨part, isRecord, parts⟩ :=
    short.record_parts ["klass", "nullability", "parameters"] rfl (by decide)
  obtain ⟨cls, found, shortTarget⟩ := (parts "klass" _ rfl).required rfl
  have readTarget := rereadsTarget cls.val shortTarget
  have readNullable : readOr false nullabilityOfJson? (part "nullability") = some nullable :=
    (parts "nullability" _ rfl).readOr_eq rfl rfl fun _ => nullabilityOfJson?_of_plain
  have readArguments : readOr [] (listOf? TypeUse.ofJson?) (part "parameters") = some arguments :=
    (parts "parameters" _ rfl).readOr_eq rfl rfl fun _ short =>
      short.listOf?_eq rereadsArguments
  rw [TypeUse.ofJson?_eq, isRecord]
  simp only [Option.bind_eq_bind, Option.bind_some, found, readTarget, readNullable, readArguments]
  rfl

end

theorem ClassDecl.toJson_eq (name : QualifiedName) (fields : List FieldDecl) (tags : List Tag)
    (functions : List FunctionDecl) (isInterface isEnum : Bool) (argument : Option TypeUse) :
    ClassDecl.toJson ⟨name, fields, tags, functions, isInterface, isEnum, argument⟩ =
      .object [("name", name.toJson), ("fields", .array (fields.map FieldDecl.toJson)),
        ("annotations", .array (tags.map Tag.toJson)),
        ("functions", .array (functions.map FunctionDecl.toJson)),
        ("is_interface", .bool isInterface), ("is_enum", .bool isEnum),
        ("superclass_parameter", ofOption TypeUse.toJson argument)] := by
  cases argument with
  | none => rw [ClassDecl.toJson, fieldsJson_eq_map, functionsJson_eq_map, ofOption]
  | some type => rw [ClassDecl.toJson, fieldsJson_eq_map, functionsJson_eq_map, ofOption]

/-- What is left of a type is a record, and not taken for nothing. -/
theorem optionalType?_of_shortened {argument : Option TypeUse}
    (rereads : ∀ type, argument = some type → Rereads .type TypeUse.toJson TypeUse.ofJson? type)
    (short : Shortened (.record .type) (ofOption TypeUse.toJson argument) json) :
    optionalType? json = some argument := by
  cases argument with
  | none =>
      rw [Shortened.null_iff.mp short]
      rfl
  | some type =>
      have read := rereads type rfl json short
      obtain ⟨target, nullable, arguments⟩ := type
      rw [ofOption, TypeUse.toJson] at short
      obtain ⟨members, rfl, _⟩ := short.members_of_record
      exact congrArg (Option.map some) read

theorem ClassDecl.rereads_of_parts {name : QualifiedName} {fields : List FieldDecl}
    {tags : List Tag} {functions : List FunctionDecl} {isInterface isEnum : Bool}
    {argument : Option TypeUse}
    (rereadsFields : ∀ field, field ∈ fields →
      Rereads .field FieldDecl.toJson FieldDecl.ofJson? field)
    (rereadsFunctions : ∀ function, function ∈ functions →
      Rereads .function FunctionDecl.toJson FunctionDecl.ofJson? function)
    (rereadsArgument : ∀ type, argument = some type →
      Rereads .type TypeUse.toJson TypeUse.ofJson? type) :
    Rereads .cls ClassDecl.toJson ClassDecl.ofJson?
      ⟨name, fields, tags, functions, isInterface, isEnum, argument⟩ := by
  intro json short
  rw [ClassDecl.toJson_eq] at short
  obtain ⟨part, isRecord, parts⟩ := short.record_parts ["name", "fields", "annotations",
    "functions", "is_interface", "is_enum", "superclass_parameter"] rfl (by decide)
  obtain ⟨text, found, shortName⟩ := (parts "name" _ rfl).required rfl
  have readName := name.rereads text.val shortName
  have readFields : readOr [] (listOf? FieldDecl.ofJson?) (part "fields") = some fields :=
    (parts "fields" _ rfl).readOr_eq rfl rfl fun _ short =>
      short.listOf?_eq rereadsFields
  have readTags : readOr [] (listOf? Tag.ofJson?) (part "annotations") = some tags :=
    (parts "annotations" _ rfl).readOr_eq rfl rfl fun _ => tags_of_shortened
  have readFunctions :
      readOr [] (listOf? FunctionDecl.ofJson?) (part "functions") = some functions :=
    (parts "functions" _ rfl).readOr_eq rfl rfl fun _ short =>
      short.listOf?_eq rereadsFunctions
  have readInterface : readOr false bool? (part "is_interface") = some isInterface :=
    (parts "is_interface" _ rfl).readOr_eq rfl rfl fun _ => bool?_of_plain
  have readEnum : readOr false bool? (part "is_enum") = some isEnum :=
    (parts "is_enum" _ rfl).readOr_eq rfl rfl fun _ => bool?_of_plain
  have readArgument :
      readOr none optionalType? (part "superclass_parameter") = some argument :=
    (parts "superclass_parameter" _ rfl).readOr_eq rfl rfl fun _ =>
      optionalType?_of_shortened rereadsArgument
  rw [ClassDecl.ofJson?_eq, isRecord]
  simp only [Option.bind_eq_bind, Option.bind_some, found, readName, readFields, readTags,
    readFunctions, readInterface, readEnum, readArgument]
  rfl

mutual

theorem ClassDecl.rereads (cls : ClassDecl) :
    Rereads .cls ClassDecl.toJson ClassDecl.ofJson? cls :=
  match cls with
  | ⟨_, fields, _, functions, _, _, argument⟩ =>
      ClassDecl.rereads_of_parts (fun field _ => field.rereads)
        (fun function _ => function.rereads) fun type _ => type.rereads
termination_by sizeOf cls
decreasing_by
  · have := List.sizeOf_lt_of_mem ‹field ∈ fields›
    simp only [ClassDecl.mk.sizeOf_spec]
    omega
  · have := List.sizeOf_lt_of_mem ‹function ∈ functions›
    simp only [ClassDecl.mk.sizeOf_spec]
    omega
  · rw [ClassDecl.mk.sizeOf_spec, ‹argument = some type›, Option.some.sizeOf_spec]
    omega

theorem TypeUse.rereads (type : TypeUse) : Rereads .type TypeUse.toJson TypeUse.ofJson? type :=
  match type with
  | ⟨target, _, arguments⟩ =>
      TypeUse.rereads_of_parts target.rereads fun argument _ => argument.rereads
termination_by sizeOf type
decreasing_by
  · simp only [TypeUse.mk.sizeOf_spec]
    omega
  · have := List.sizeOf_lt_of_mem ‹argument ∈ arguments›
    simp only [TypeUse.mk.sizeOf_spec]
    omega

theorem FieldDecl.rereads (field : FieldDecl) :
    Rereads .field FieldDecl.toJson FieldDecl.ofJson? field :=
  match field with
  | ⟨_, type, _⟩ => FieldDecl.rereads_of_type type.rereads
termination_by sizeOf field

theorem ParameterDecl.rereads (parameter : ParameterDecl) :
    Rereads .parameter ParameterDecl.toJson ParameterDecl.ofJson? parameter :=
  match parameter with
  | ⟨_, type, _⟩ => ParameterDecl.rereads_of_type type.rereads
termination_by sizeOf parameter

theorem FunctionDecl.rereads (function : FunctionDecl) :
    Rereads .function FunctionDecl.toJson FunctionDecl.ofJson? function :=
  match function with
  | ⟨_, parameters, returnType, _, _⟩ =>
      FunctionDecl.rereads_of_parts (fun parameter _ => parameter.rereads) returnType.rereads
termination_by sizeOf function
decreasing_by
  · have := List.sizeOf_lt_of_mem ‹parameter ∈ parameters›
    simp only [FunctionDecl.mk.sizeOf_spec]
    omega
  · simp only [FunctionDecl.mk.sizeOf_spec]
    omega

end

/-! ## Options -/

theorem MarkerStyle.ofJson?_of_plain {style : MarkerStyle}
    (short : Shortened .plain style.toJson json) : MarkerStyle.ofJson? json = some style := by
  rw [short.eq_of_plain]
  cases style with
  | question => rfl
  | numbered => rfl

theorem optionalString?_of_plain {text : Option String}
    (short : Shortened .plain (ofOption .string text) json) :
    json.optionalString? = some text := by
  rw [short.eq_of_plain]
  cases text with
  | none => rfl
  | some text => rfl

theorem cap_of_plain {cap : UInt32} (short : Shortened .plain (.integer cap.toNat) json) :
    (json.integerBetween? 0 (UInt32.size - 1)).map (fun cap => UInt32.ofNat cap.toNat) =
      some cap := by
  rw [short.eq_of_plain, Option.map_eq_some_iff]
  refine ⟨cap.toNat, ?_, UInt32.ofNat_toNat⟩
  have bound : (cap.toNat : Int) ≤ UInt32.size - 1 := by
    have := cap.toNat_lt_size
    omega
  simpa [integerBetween?, integer?] using bound

theorem Options.rereads (options : Options) :
    Rereads .options Options.toJson Options.ofJson? options := by
  intro json short
  obtain ⟨part, isRecord, parts⟩ := short.record_parts ["placeholders", "default_schema",
    "quote_identifiers", "single_result_cap", "default_database"] rfl (by decide)
  have readMarkers :
      readOr .question MarkerStyle.ofJson? (part "placeholders") = some options.markers :=
    (parts "placeholders" _ rfl).readOr_eq rfl rfl fun _ =>
      MarkerStyle.ofJson?_of_plain
  have readSchema :
      readOr none optionalString? (part "default_schema") = some options.defaultSchema :=
    (parts "default_schema" _ rfl).readOr_eq rfl rfl fun _ =>
      optionalString?_of_plain
  have readQuote :
      readOr true bool? (part "quote_identifiers") = some options.quoteIdentifiers :=
    (parts "quote_identifiers" _ rfl).readOr_eq rfl rfl fun _ => bool?_of_plain
  have readCap :
      readOr 2 (fun json => (json.integerBetween? 0 (UInt32.size - 1)).map
        fun cap => UInt32.ofNat cap.toNat) (part "single_result_cap") =
        some options.singleResultCap :=
    (parts "single_result_cap" _ rfl).readOr_eq rfl rfl fun _ => cap_of_plain
  have readDatabase :
      readOr "main" string? (part "default_database") = some options.defaultDatabase :=
    (parts "default_database" _ rfl).readOr_eq rfl rfl fun _ => string?_of_plain
  rw [Options.ofJson?, isRecord]
  simp only [Option.bind_eq_bind, Option.bind_some, readMarkers, readSchema, readQuote, readCap,
    readDatabase]
  rfl

/-- Class models and options are read back from what is written for them, and from whatever
is left of it when parts that have their defaults are taken out at any depth. -/
theorem models_and_options_reread :
    (∀ cls : ClassDecl, ClassDecl.ofJson? cls.toJson = some cls ∧
      ∀ json, Shortened (.record .cls) cls.toJson json → ClassDecl.ofJson? json = some cls) ∧
    ∀ options : Options, Options.ofJson? options.toJson = some options ∧
      ∀ json, Shortened (.record .options) options.toJson json →
        Options.ofJson? json = some options := by
  constructor
  · intro cls
    exact ⟨cls.rereads cls.toJson (.same _ _), cls.rereads⟩
  · intro options
    exact ⟨options.rereads options.toJson (.same _ _), options.rereads⟩

/-- A class without fields in no namespace, used without arguments, as short as it can be
written. -/
def shortUse (name : String) : Json :=
  .object [("klass", .object [("name", .object [("name", .string name)])])]

theorem shortened_bare (name : String) :
    Shortened (.record .name) (QualifiedName.bare name).toJson
      (.object [("name", .string name)]) :=
  .record (.drop rfl (.keep (.same _ _) (.nil _)))

theorem shortened_use (name : String) :
    Shortened (.record .type) (TypeUse.toJson { target := { name := .bare name } })
      (shortUse name) := by
  have shortClass : Shortened (.record .cls) (ClassDecl.toJson { name := .bare name })
      (.object [("name", .object [("name", .string name)])]) :=
    .record (.keep (shortened_bare name)
      (.drop rfl (.drop rfl (.drop rfl (.drop rfl (.drop rfl (.drop rfl (.nil _))))))))
  exact .record (.keep shortClass (.drop rfl (.drop rfl (.nil _))))

namespace Trailers

/-- A repository of trailers with a function that counts them. -/
def interface : ClassDecl where
  name := .bare "Trailers"
  functions := [{ name := "count_all", returnType := { target := { name := .bare "i64" } } }]
  isInterface := true
  argument := some { target := { name := .bare "Trailer" } }

/-- The repository without any part that has its default. -/
def shortest : Json :=
  .object [("name", .object [("name", .string "Trailers")]),
    ("functions", .array [
      .object [("name", .string "count_all"), ("return_type", shortUse "i64")]]),
    ("is_interface", .bool true), ("superclass_parameter", shortUse "Trailer")]

theorem shortened_shortest : Shortened (.record .cls) interface.toJson shortest := by
  have shortFunction : Shortened (.record .function)
      (FunctionDecl.toJson
        { name := "count_all", returnType := { target := { name := .bare "i64" } } })
      (.object [("name", .string "count_all"), ("return_type", shortUse "i64")]) :=
    .record (.keep (.same _ _) (.drop rfl (.keep (shortened_use "i64")
      (.drop rfl (.drop rfl (.nil _))))))
  exact .record (.keep (shortened_bare "Trailers") (.drop rfl (.drop rfl
    (.keep (.records (.cons shortFunction (.nil _))) (.keep (.same _ _) (.drop rfl
      (.keep (shortened_use "Trailer") (.nil _))))))))

end Trailers

theorem models_and_options_reread_trailers :
    Shortened (.record .cls) Trailers.interface.toJson Trailers.shortest ∧
      ClassDecl.ofJson? Trailers.shortest = some Trailers.interface := by
  obtain ⟨models, _⟩ := models_and_options_reread
  exact ⟨Trailers.shortened_shortest,
    (models Trailers.interface).2 Trailers.shortest Trailers.shortened_shortest⟩

end RowPlan
