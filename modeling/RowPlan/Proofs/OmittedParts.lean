import RowPlan.Model.Codec

/-!
# Omitted parts of records

A record may be written without parts that have their defaults. `Shortened` relates a
written value to every value that is left when such parts are taken out, at any depth,
and `FoundPart` says what a reader finds of a part then: nothing where it had its
default, or a shortened form of it.
-/

namespace RowPlan

open Json

/-- The records of class models and options. -/
inductive RecordKind where
  | name
  | tag
  | cls
  | type
  | field
  | parameter
  | function
  | options
  deriving DecidableEq

/-- Which records may have parts taken out in a value. -/
inductive Form where
  /-- There are no records in it. -/
  | plain
  | record (kind : RecordKind)
  | records (kind : RecordKind)

namespace RecordKind

/-- The parts that may be left out, with their defaults. -/
def defaults : RecordKind → List (String × Json)
  | name => [("namespace", .string "")]
  | tag => [("params", .object [])]
  | cls => [("fields", .array []), ("annotations", .array []), ("functions", .array []),
      ("is_interface", .bool false), ("is_enum", .bool false), ("superclass_parameter", .null)]
  | type => [("nullability", .string "non_nullable"), ("parameters", .array [])]
  | field => [("annotations", .array [])]
  | parameter => [("annotations", .array [])]
  | function => [("parameters", .array []), ("annotations", .array []), ("is_abstract", .bool true)]
  | options => [("placeholders", .string "question"), ("default_schema", .null),
      ("quote_identifiers", .bool true), ("single_result_cap", .integer 2),
      ("default_database", .string "main")]

/-- The default of a part, if it may be left out. -/
def default? (kind : RecordKind) (key : String) : Option Json :=
  kind.defaults.lookup key

/-- The parts that hold records. -/
def nested : RecordKind → List (String × Form)
  | cls => [("name", .record name), ("fields", .records field), ("annotations", .records tag),
      ("functions", .records function), ("superclass_parameter", .record type)]
  | type => [("klass", .record cls), ("parameters", .records type)]
  | field => [("type", .record type), ("annotations", .records tag)]
  | parameter => [("type", .record type), ("annotations", .records tag)]
  | function => [("parameters", .records parameter), ("return_type", .record type),
      ("annotations", .records tag)]
  | name => []
  | tag => []
  | options => []

/-- The form of a part. -/
def form (kind : RecordKind) (key : String) : Form :=
  (kind.nested.lookup key).getD .plain

end RecordKind

mutual

/-- The second value is what is left of the first when parts of its records that have
their defaults are taken out. -/
inductive Shortened : Form → Json → Json → Prop where
  | same (form : Form) (json : Json) : Shortened form json json
  | record {kind : RecordKind} {members shorter : List (String × Json)} :
      ShortenedMembers kind members shorter →
      Shortened (.record kind) (.object members) (.object shorter)
  | records {kind : RecordKind} {items shorter : List Json} :
      ShortenedItems kind items shorter →
      Shortened (.records kind) (.array items) (.array shorter)

/-- `Shortened` for the members of a record. -/
inductive ShortenedMembers : RecordKind → List (String × Json) → List (String × Json) → Prop where
  | nil (kind : RecordKind) : ShortenedMembers kind [] []
  | keep {kind : RecordKind} {key : String} {value part : Json}
      {members shorter : List (String × Json)} :
      Shortened (kind.form key) value part → ShortenedMembers kind members shorter →
      ShortenedMembers kind ((key, value) :: members) ((key, part) :: shorter)
  | drop {kind : RecordKind} {key : String} {value : Json}
      {members shorter : List (String × Json)} :
      kind.default? key = some value → ShortenedMembers kind members shorter →
      ShortenedMembers kind ((key, value) :: members) shorter

/-- `Shortened` for a list of records. -/
inductive ShortenedItems : RecordKind → List Json → List Json → Prop where
  | nil (kind : RecordKind) : ShortenedItems kind [] []
  | cons {kind : RecordKind} {item part : Json} {items shorter : List Json} :
      Shortened (.record kind) item part → ShortenedItems kind items shorter →
      ShortenedItems kind (item :: items) (part :: shorter)

end

variable {kind : RecordKind} {key : String} {value json : Json}
  {members shorter : List (String × Json)} {items : List Json}

theorem ShortenedMembers.refl (kind : RecordKind) (members : List (String × Json)) :
    ShortenedMembers kind members members := by
  induction members with
  | nil => exact .nil kind
  | cons member rest induction => exact .keep (.same _ _) induction

theorem ShortenedItems.refl (kind : RecordKind) (items : List Json) :
    ShortenedItems kind items items := by
  induction items with
  | nil => exact .nil kind
  | cons item rest induction => exact .cons (.same _ _) induction

namespace Shortened

theorem eq_of_plain (short : Shortened .plain value json) : json = value := by
  cases short
  rfl

theorem members_of_record (short : Shortened (.record kind) (.object members) json) :
    ∃ shorter, json = .object shorter ∧ ShortenedMembers kind members shorter := by
  cases short with
  | same => exact ⟨members, rfl, .refl kind members⟩
  | record shortMembers => exact ⟨_, rfl, shortMembers⟩

theorem items_of_records (short : Shortened (.records kind) (.array items) json) :
    ∃ shorter, json = .array shorter ∧ ShortenedItems kind items shorter := by
  cases short with
  | same => exact ⟨items, rfl, .refl kind items⟩
  | records shortItems => exact ⟨_, rfl, shortItems⟩

theorem null_iff : Shortened (.record kind) .null json ↔ json = .null := by
  constructor
  · intro short
    cases short
    rfl
  · rintro rfl
    exact .same _ _

end Shortened

/-! ## Finding parts -/

/-- What a reader finds of a part that was written as `value`. -/
inductive FoundPart (kind : RecordKind) (key : String) (value : Json) {whole : Json} :
    Option (Part whole) → Prop where
  | omitted : kind.default? key = some value → FoundPart kind key value none
  | kept {part : Part whole} :
      Shortened (kind.form key) value part.val → FoundPart kind key value (some part)

/-- A part that is taken out leaves no other one of its key. -/
theorem ShortenedMembers.keys_subset (short : ShortenedMembers kind members shorter) :
    shorter.map Prod.fst ⊆ members.map Prod.fst := by
  induction members generalizing shorter with
  | nil =>
      cases short
      exact List.Subset.refl _
  | cons member rest induction =>
      cases short with
      | keep _ shortRest => exact List.cons_subset_cons _ (induction shortRest)
      | drop _ shortRest => exact List.subset_cons_of_subset _ (induction shortRest)

theorem ShortenedMembers.lookup (short : ShortenedMembers kind members shorter)
    (distinct : (members.map Prod.fst).Nodup) (written : members.lookup key = some value) :
    (shorter.lookup key = none ∧ kind.default? key = some value) ∨
      ∃ part, shorter.lookup key = some part ∧ Shortened (kind.form key) value part := by
  induction members generalizing shorter with
  | nil => cases written
  | cons member rest induction =>
      obtain ⟨name, first⟩ := member
      obtain ⟨absent, restDistinct⟩ := List.nodup_cons.mp distinct
      by_cases same : key = name
      · subst same
        obtain rfl : first = value := by simpa using written
        cases short with
        | keep shortPart _ => exact .inr ⟨_, List.lookup_cons_self, shortPart⟩
        | drop isDefault shortRest =>
            -- Were the key found behind it, the record would have been written with it twice.
            refine .inl ⟨?_, isDefault⟩
            rw [List.lookup_eq_none_iff]
            intro other member
            have inRest := shortRest.keys_subset (List.mem_map_of_mem member)
            rw [bne_iff_ne]
            rintro rfl
            exact absent inRest
      · have apart : (key == name) = false := beq_eq_false_iff_ne.mpr same
        have behind : rest.lookup key = some value := by
          simpa [List.lookup_cons, apart] using written
        cases short with
        | keep _ shortRest =>
            rw [List.lookup_cons, apart]
            exact induction shortRest restDistinct behind
        | drop _ shortRest => exact induction shortRest restDistinct behind

theorem findMember_lookup (key : String) (members : List (String × Json)) :
    (findMember key members).map Subtype.val = members.lookup key := by
  induction members with
  | nil => rfl
  | cons member rest induction =>
      obtain ⟨name, value⟩ := member
      rw [findMember]
      split
      case isTrue same => simp [same]
      case isFalse other =>
        rw [List.lookup_cons, beq_eq_false_iff_ne.mpr (Ne.symm other), ← induction, Option.map_map]
        rfl

/-- Every part of a shortened record is found, or had its default. -/
theorem Shortened.record_parts (short : Shortened (.record kind) (.object members) json)
    (keys : List String) (written : members.map Prod.fst = keys) (distinct : keys.Nodup) :
    ∃ part, json.record? keys = some part ∧
      ∀ key value, members.lookup key = some value → FoundPart kind key value (part key) := by
  subst written
  obtain ⟨shorter, rfl, shortMembers⟩ := short.members_of_record
  refine ⟨_, rfl, ?_⟩
  intro key value written
  have found := findMember_lookup key shorter
  rcases shortMembers.lookup distinct written with ⟨absent, isDefault⟩ | ⟨part, present, shortPart⟩
  · rw [absent, Option.map_eq_none_iff] at found
    rw [found]
    exact .omitted isDefault
  · rw [present] at found
    obtain ⟨⟨_, smaller⟩, here, rfl⟩ := Option.map_eq_some_iff.mp found
    rw [here]
    exact .kept shortPart

/-! ## Reading parts -/

/-- A record is read back from what is written for it, shortened or not. -/
def Rereads {α : Type} (kind : RecordKind) (encode : α → Json) (decode : Json → Option α)
    (value : α) : Prop :=
  ∀ json, Shortened (.record kind) (encode value) json → decode json = some value

section

variable {α : Type} {whole : Json} {part : Option (Part whole)} {encode : α → Json}
  {decode : Json → Option α} {default result : α} {values : List α}

/-- A part that may be left out is read where its default is read from what is written for
it. -/
theorem FoundPart.readOr_eq (found : FoundPart kind key value part) {written : Json}
    (isDefault : kind.default? key = some written)
    (decodesDefault : decode written = some default)
    (decodes : ∀ json, Shortened (kind.form key) value json → decode json = some result) :
    readOr default decode part = some result := by
  cases found with
  | omitted valueIsDefault =>
      obtain rfl := Option.some.inj (isDefault.symm.trans valueIsDefault)
      exact decodesDefault.symm.trans (decodes written (.same _ _))
  | kept short => exact decodes _ short

/-- A part without default is found. -/
theorem FoundPart.required (found : FoundPart kind key value part)
    (required : kind.default? key = none) :
    ∃ here, part = some here ∧ Shortened (kind.form key) value here.val := by
  cases found with
  | omitted isDefault => cases required.symm.trans isDefault
  | kept short => exact ⟨_, rfl, short⟩

theorem ShortenedItems.mapM_eq {shorter : List Json}
    (short : ShortenedItems kind (values.map encode) shorter)
    (rereads : ∀ value, value ∈ values → Rereads kind encode decode value) :
    shorter.mapM decode = some values := by
  induction values generalizing shorter with
  | nil =>
      cases short
      rfl
  | cons value rest induction =>
      obtain ⟨rereadsFirst, rereadsRest⟩ := List.forall_mem_cons.mp rereads
      cases short with
      | cons shortItem shortRest =>
          rw [List.mapM_cons, rereadsFirst _ shortItem, induction shortRest rereadsRest]
          rfl

/-- A list of records is read where each of them is. -/
theorem Shortened.listOf?_eq
    (short : Shortened (.records kind) (.array (values.map encode)) json)
    (rereads : ∀ value, value ∈ values → Rereads kind encode decode value) :
    listOf? decode json = some values := by
  obtain ⟨shorter, rfl, shortItems⟩ := short.items_of_records
  exact shortItems.mapM_eq rereads

end

/-- The items of a value are read one after the other. -/
theorem items?_mapM {α : Type} (decode : Json → Option α) (json : Json) :
    (json.items?.bind fun items => items.mapM fun item => decode item.val) =
      listOf? decode json := by
  cases json with
  | array items =>
      rw [items?, listOf?, Option.bind_some, List.mapM_map]
      refine (List.mapM_subtype fun _ _ => rfl).trans ?_
      rw [List.unattach_attach]
  | _ => rfl

end RowPlan
