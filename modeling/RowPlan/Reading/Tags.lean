import RowPlan.Tag
import RowPlan.Reading.Checked
import RowPlan.Reading.Entry
import RowPlan.Reading.Value

/-!
# Tags from attributes

Attributes that are known on a class, a field, a function or a parameter become
its tags; all others are passed over. Some attributes are markers, some hold a
text or a count, in parentheses or after an equals sign, and some hold keys with
texts.
-/

namespace RowPlan

/-- The only literal among tokens, of the wanted kind. -/
def onlyLiteral {α : Type} (wanted : Wanted) (pick : Literal → Option α)
    (tokens : List Token) : Except FaultCause α :=
  ((Parser.literalOf wanted pick).run tokens).mapError .malformed

/-- The text that a literal is. -/
def Literal.text? : Literal → Option String
  | string text => some text
  | _ => none

/-- The whole number that a literal is: whether it has a minus sign, and its value. -/
def Literal.number? : Literal → Option (Bool × Nat)
  | integer isNegative value _ => some (isNegative, value)
  | _ => none

namespace AttributeTree

/-! ## What attributes hold -/

/-- A marker takes no arguments. -/
def marker (attr : AttributeTree) (name : String) : Except FaultCause Tag :=
  match attr.form with
  | .bare => .ok { name }
  | _ => .error .unexpectedArguments

/-- The fault of an attribute without the arguments that it takes. -/
def withoutArguments (attr : AttributeTree) : FaultCause :=
  .missingArguments (if attr.isInner then "#!" else "#") ("::".intercalate attr.path)

/-- A text. -/
def text (attr : AttributeTree) : Except FaultCause String :=
  match attr.form with
  | .value value => value.text
  | .list _ tokens => onlyLiteral .stringLiteral Literal.text? tokens
  | .bare => .error attr.withoutArguments

/-- A count. -/
def count (attr : AttributeTree) : Except FaultCause Nat :=
  match attr.form with
  | .value value => value.count
  | .list _ tokens => do
      let (isNegative, value) ← onlyLiteral .integerLiteral Literal.number? tokens
      checkedCount isNegative value
  | .bare => .error attr.withoutArguments

/-- The text after a key. -/
def entryText : AttributeForm → Except FaultCause String
  | .bare => .error (.unexpectedFormat "word")
  | .value value => value.text
  | .list _ tokens => do
      let _ ← Entry.readAll tokens
      throw (.unexpectedFormat "list")

/-- The keys of entries with their texts; `seen` are the keys of the entries before them. -/
def entryTexts (keys seen : List String) : List Entry → List (Except Fault (String × String))
  | [] => []
  | .literal :: rest =>
      .error (Fault.of (.unexpectedFormat "literal")) :: entryTexts keys seen rest
  | .keyed path form :: rest =>
      let key := "::".intercalate path
      let text :=
        if !keys.contains key then .error (Fault.of (.unknownField key keys))
        else if seen.contains key then .error (Fault.of (.duplicateField key))
        else match entryText form with
          | .ok text => .ok (key, text)
          | .error cause => .error ((Fault.of cause).located key)
      text :: entryTexts keys (key :: seen) rest

/-- The texts of keys, each of which may be left out. -/
def texts (attr : AttributeTree) (keys : List String) : Except Fault (List (String × String)) :=
  match attr.form with
  | .bare => .ok []
  | .value value => .error (Fault.of (.unexpectedType value.kind))
  | .list _ tokens =>
      match Entry.readAll tokens with
      | .ok entries => (Checked.all ((entryTexts keys [] entries).map Checked.of)).together
      | .error cause => .error (Fault.of cause)

/-! ## Tags -/

/-- A tag with a parameter for each key that is given. `keys` are in alphabetical order, each
with the key of its parameter. -/
def keyedTag (attr : AttributeTree) (name : String) (keys : List (String × String)) :
    Except Fault Tag := do
  let texts ← attr.texts (keys.map Prod.fst)
  let params := keys.filterMap fun (key, param) =>
    (texts.lookup key).map fun text => (param, text)
  return { name, params }

/-- A tag whose reading stops at its first fault. -/
def simpleTag : Except FaultCause Tag → Except Fault Tag
  | .ok tag => .ok tag
  | .error cause => .error (Fault.of cause)

/-- The tag of a marker. -/
def markerTag (attr : AttributeTree) (name : String) : Except Fault Tag :=
  simpleTag (attr.marker name)

/-- The tag of an attribute that holds a text. -/
def textTag (attr : AttributeTree) (name : String) : Except Fault Tag :=
  simpleTag (attr.text.map (Tag.valued name))

/-- The tag of an attribute that holds a count. -/
def countTag (attr : AttributeTree) (name : String) : Except Fault Tag :=
  simpleTag (attr.count.map fun count => Tag.valued name (toString count))

/-- The tag of a class that an attribute is. -/
def classTag? (attr : AttributeTree) : Option (Except Fault Tag) :=
  match attr.name? with
  | some "table" => some (attr.keyedTag TagName.table [("name", "name"), ("schema", "schema")])
  | some "repository" => some (attr.keyedTag TagName.repository [("database", "database")])
  | _ => none

/-- The tag of a field that an attribute is. -/
def fieldTag? (attr : AttributeTree) : Option (Except Fault Tag) :=
  match attr.name? with
  | some "id" => some (attr.markerTag TagName.id)
  | some "version" => some (attr.markerTag TagName.version)
  | some "column" =>
      some (attr.keyedTag TagName.column
        [("name", "name"), ("schema", "schema"), ("ty", "type")])
  | _ => none

/-- The tag of a function that an attribute is. -/
def functionTag? (attr : AttributeTree) : Option (Except Fault Tag) :=
  match attr.name? with
  | some "where_clause" => some (attr.textTag TagName.condition)
  | some "query" => some (attr.textTag TagName.query)
  | some "statement" => some (attr.textTag TagName.statement)
  | some "order_by" => some (attr.textTag TagName.orderBy)
  | some "limit" => some (attr.countTag TagName.limit)
  | some "first" => some (attr.markerTag TagName.first)
  | some "delete" => some (attr.markerTag TagName.delete)
  | some "save" => some (attr.markerTag TagName.save)
  | some "on_conflict_fail" => some (attr.markerTag TagName.onConflictFail)
  | _ => none

/-- The tag of a parameter that an attribute is. -/
def parameterTag? (attr : AttributeTree) : Option (Except Fault Tag) :=
  match attr.name? with
  | some "limit" => some (attr.markerTag TagName.limit)
  | _ => none

/-- The tags that attributes are. -/
def tags (tag? : AttributeTree → Option (Except Fault Tag)) (attributes : List AttributeTree) :
    Except Fault (List Tag) :=
  (Checked.all ((attributes.filterMap tag?).map Checked.of)).together

end AttributeTree

end RowPlan
