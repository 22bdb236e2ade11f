import RowPlan.Method.Signature
import RowPlan.Proofs.MarkedText

/-!
# Tidy texts

A text is tidy if its markers can be told from the rest of it. That needs fixed parts
and identifiers without the sign of a marker.
-/

namespace RowPlan

/-- No identifier of a table and no given text of a function has a character. -/
structure Scope.Avoids (scope : Scope) (function : FunctionDecl) (c : Char) : Prop where
  table : c ∉ scope.table.name.toList
  schema : ∀ schema, scope.table.schema = some schema → c ∉ schema.toList
  columns : ∀ column, column ∈ scope.table.columns → c ∉ column.name.toList
  texts : ∀ name,
    name ∈ [TagName.condition, TagName.query, TagName.statement, TagName.orderBy] →
    ∀ text, (function.tag? name).bind Tag.value? = some text → c ∉ text.toList

theorem Scope.avoids_iff {scope : Scope} {function : FunctionDecl} {c : Char} :
    scope.Avoids function c ↔
      c ∉ scope.table.name.toList ∧ (∀ schema ∈ scope.table.schema, c ∉ schema.toList) ∧
        (∀ column ∈ scope.table.columns, c ∉ column.name.toList) ∧
        ∀ name ∈ [TagName.condition, TagName.query, TagName.statement, TagName.orderBy],
          ∀ text ∈ (function.tag? name).bind Tag.value?, c ∉ text.toList :=
  ⟨fun avoids => ⟨avoids.table, avoids.schema, avoids.columns, avoids.texts⟩,
    fun ⟨table, schema, columns, texts⟩ => ⟨table, schema, columns, texts⟩⟩

instance (scope : Scope) (function : FunctionDecl) (c : Char) :
    Decidable (scope.Avoids function c) :=
  decidable_of_iff' _ Scope.avoids_iff

/-! ## Identifiers -/

section

variable {style : MarkerStyle} {options : Options} {table : Table}

theorem mem_doubleQuotes {c : Char} {text : List Char}
    (member : c ∈ Options.doubleQuotes text) : c ∈ text := by
  induction text with
  | nil => cases member
  | cons first rest induction =>
      unfold Options.doubleQuotes at member
      split at member
      case isTrue quotes =>
        subst quotes
        simp only [List.mem_cons] at member ⊢
        rcases member with here | here | later
        · exact .inl here
        · exact .inl here
        · exact .inr (induction later)
      case isFalse =>
        rcases List.mem_cons.mp member with rfl | later
        · exact List.mem_cons_self
        · exact List.mem_cons_of_mem _ (induction later)

theorem sign_not_mem_quote {identifier : String} (absent : style.sign ∉ identifier.toList) :
    style.sign ∉ (options.quote identifier).toList := by
  unfold Options.quote
  split
  case isFalse => exact absent
  case isTrue =>
    have noQuote : style.sign ≠ '"' := by
      cases style with
      | question => decide
      | numbered => decide
    have inner : style.sign ∉ Options.doubleQuotes identifier.toList :=
      fun member => absent (mem_doubleQuotes member)
    simp [noQuote, inner]

theorem sign_not_mem_append {left right : String} (inLeft : style.sign ∉ left.toList)
    (inRight : style.sign ∉ right.toList) : style.sign ∉ (left ++ right).toList := by
  rw [String.toList_append, List.mem_append]
  exact fun member => member.elim inLeft inRight

theorem sign_not_mem_intercalate {separator : String} {parts : List String}
    (inSeparator : style.sign ∉ separator.toList)
    (inParts : ∀ part, part ∈ parts → style.sign ∉ part.toList) :
    style.sign ∉ (separator.intercalate parts).toList := by
  induction parts with
  | nil => simp
  | cons part rest induction =>
      obtain ⟨here, later⟩ := List.forall_mem_cons.mp inParts
      cases rest with
      | nil => simpa using here
      | cons next others =>
          rw [String.intercalate_cons_cons]
          exact sign_not_mem_append (sign_not_mem_append here inSeparator)
            (induction later)

/-- Fixed text is checked for both signs. -/
theorem sign_not_mem_literal {part : String}
    (free : (part.toList.all fun c => c != '?' && c != '$') = true) :
    style.sign ∉ part.toList := by
  intro member
  have checked := List.all_eq_true.mp free _ member
  cases style with
  | question => simp [MarkerStyle.sign] at checked
  | numbered => simp [MarkerStyle.sign] at checked

theorem sign_not_mem_ref {scope : Scope} {function : FunctionDecl}
    (avoids : scope.Avoids function style.sign) :
    style.sign ∉ (scope.table.ref scope.options).toList := by
  unfold Table.ref Options.tableRef
  split
  case h_1 schema found =>
    exact sign_not_mem_append
      (sign_not_mem_append (sign_not_mem_quote (avoids.schema schema found))
        (sign_not_mem_literal (by decide)))
      (sign_not_mem_quote avoids.table)
  case h_2 => exact sign_not_mem_quote avoids.table

end

/-! ## Tidy texts -/

namespace SqlText

/-- A text whose markers can be told from the rest, and the keys of its slots. -/
structure Tidy (style : MarkerStyle) (text : SqlText) (keys : List (String × BindSlot)) :
    Prop where
  separated : text.Separated
  plain : text.Plain style.sign
  keyed : text.keyed = keys

variable {style : MarkerStyle} {rest left right : SqlText}
  {keys leftKeys rightKeys : List (String × BindSlot)}

/-- A text that begins with a part whose first character is no digit. -/
theorem startsClear_of_first {part : String}
    (first : (part.toList.head?.any fun c => !c.isDigit) = true) :
    StartsClear (.text part :: rest) := by
  cases shape : part.toList with
  | nil => simp [shape] at first
  | cons head tail =>
      have noDigit : head.isDigit = false := by simpa [shape] using first
      refine ⟨?_, fun empty => by simp [shape] at empty⟩
      intro c found
      obtain rfl : head = c := by simpa [shape] using found
      exact noDigit

theorem startsClear_of_literal {part tail : String}
    (first : (part.toList.head?.any fun c => !c.isDigit) = true) :
    StartsClear (.text (part ++ tail) :: rest) := by
  apply startsClear_of_first
  cases shape : part.toList with
  | nil => simp [shape] at first
  | cons head rest => simpa [shape, String.toList_append] using first

namespace Tidy

theorem nil : Tidy style [] [] :=
  ⟨trivial, plain_nil, rfl⟩

theorem part (tidy : Tidy style rest keys) {part : String}
    (absent : style.sign ∉ part.toList) : Tidy style (.text part :: rest) keys :=
  ⟨tidy.separated, plain_text_iff.mpr ⟨absent, tidy.plain⟩, tidy.keyed⟩

theorem literal (tidy : Tidy style rest keys) {part : String}
    (free : (part.toList.all fun c => c != '?' && c != '$') = true) :
    Tidy style (.text part :: rest) keys :=
  tidy.part (sign_not_mem_literal free)

theorem slot (tidy : Tidy style rest keys) (clear : rest.StartsClear) (slot : BindSlot) :
    Tidy style (.slot none slot :: rest) keys :=
  ⟨⟨clear, tidy.separated⟩, plain_slot_iff.mpr tidy.plain, tidy.keyed⟩

theorem append (leftTidy : Tidy style left leftKeys) (rightTidy : Tidy style right rightKeys)
    (clear : right.StartsClear) : Tidy style (left ++ right) (leftKeys ++ rightKeys) where
  separated := leftTidy.separated.append clear rightTidy.separated
  plain := plain_append_iff.mpr ⟨leftTidy.plain, rightTidy.plain⟩
  keyed := by rw [keyed_append, leftTidy.keyed, rightTidy.keyed]

theorem join {separator : String} {parts : List SqlText}
    (first : (separator.toList.head?.any fun c => !c.isDigit) = true)
    (absent : style.sign ∉ separator.toList)
    (each : ∀ part, part ∈ parts → Tidy style part []) :
    Tidy style (SqlText.join separator parts) [] := by
  induction parts with
  | nil => exact nil
  | cons part rest induction =>
      obtain ⟨here, later⟩ := List.forall_mem_cons.mp each
      cases rest with
      | nil => exact here
      | cons next others =>
          exact here.append ((induction later).part absent) (startsClear_of_first first)

end Tidy

end SqlText

end RowPlan
