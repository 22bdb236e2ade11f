/-!
# JSON values

The data format in which class models and options are exchanged. A record may
be written as an object or as an array of its parts in order.
-/

namespace RowPlan

/-- A JSON value. Numbers that are not written as plain integers keep their text. -/
inductive Json where
  | null
  | bool (value : Bool)
  | integer (value : Int)
  | decimal (text : String)
  | string (value : String)
  | array (items : List Json)
  | object (members : List (String × Json))

namespace Json

/-- A value found inside another one. -/
abbrev Part (whole : Json) : Type :=
  { part : Json // sizeOf part < sizeOf whole }

/-- The first member with a key. -/
def findMember (key : String) : (members : List (String × Json)) →
    Option { part : Json // sizeOf part < sizeOf members }
  | [] => none
  | (name, value) :: rest =>
      if name = key then
        some ⟨value, by simp only [List.cons.sizeOf_spec, Prod.mk.sizeOf_spec]; omega⟩
      else
        (findMember key rest).map fun ⟨part, smaller⟩ =>
          ⟨part, by simp only [List.cons.sizeOf_spec, Prod.mk.sizeOf_spec]; omega⟩

/-- The item at a place. -/
def itemAt : (items : List Json) → Nat → Option { part : Json // sizeOf part < sizeOf items }
  | [], _ => none
  | item :: _, 0 => some ⟨item, by simp only [List.cons.sizeOf_spec]; omega⟩
  | _ :: rest, place + 1 =>
      (itemAt rest place).map fun ⟨part, smaller⟩ =>
        ⟨part, by simp only [List.cons.sizeOf_spec]; omega⟩

/-- The value under a key, if this is an object that has the key. -/
def member? (json : Json) (key : String) : Option (Part json) :=
  match json with
  | object members =>
      (findMember key members).map fun ⟨part, smaller⟩ =>
        ⟨part, by simp only [object.sizeOf_spec]; omega⟩
  | _ => none

/-- The parts of a record whose keys are declared in the order of `keys`: by name
from an object, by place from an array that is not longer than the record. -/
def record? (json : Json) (keys : List String) : Option (String → Option (Part json)) :=
  match json with
  | object members => some fun key =>
      (findMember key members).map fun ⟨part, smaller⟩ =>
        ⟨part, by simp only [object.sizeOf_spec]; omega⟩
  | array items =>
      if keys.length < items.length then none
      else some fun key =>
        (itemAt items (keys.idxOf key)).map fun ⟨part, smaller⟩ =>
          ⟨part, by simp only [array.sizeOf_spec]; omega⟩
  | _ => none

/-- The items of an array, each smaller than the array. -/
def items? (json : Json) : Option (List (Part json)) :=
  match json with
  | array items => some (items.attach.map fun ⟨item, member⟩ =>
      ⟨item, by have := List.sizeOf_lt_of_mem member; simp only [array.sizeOf_spec]; omega⟩)
  | _ => none

/-- The value of a text. -/
def string? : Json → Option String
  | string value => some value
  | _ => none

/-- The value of a truth value. -/
def bool? : Json → Option Bool
  | bool value => some value
  | _ => none

/-- The value of a number written without fraction and exponent. -/
def integer? : Json → Option Int
  | integer value => some value
  | _ => none

/-- An integer of the given range, both ends included. -/
def integerBetween? (low high : Int) (json : Json) : Option Int :=
  json.integer?.filter fun value => low ≤ value && value ≤ high

/-- A text, or null for none. -/
def optionalString? : Json → Option (Option String)
  | null => some none
  | string value => some (some value)
  | _ => none

/-- The spelling of an enumerated value: a text, or an object whose only member is
that text with null. -/
def variant? : Json → Option String
  | string value => some value
  | object [(name, null)] => some name
  | _ => none

/-- Reads every item of an array. -/
def listOf? {α : Type} (decode : Json → Option α) (json : Json) : Option (List α) :=
  match json with
  | array items => items.mapM decode
  | _ => none

/-- A value, or null for none. -/
def ofOption {α : Type} (encode : α → Json) : Option α → Json
  | none => null
  | some value => encode value

end Json

end RowPlan
