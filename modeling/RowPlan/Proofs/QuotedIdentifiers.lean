import RowPlan.Options
import RowPlan.Placeholder

/-!
# Quoted identifiers

A quoted identifier stands between two quotation marks, and every mark in it is written twice. It
can be read in one way only, whatever its characters are: its end is not before the last mark, and
what comes after it is none of it. To the scanner for placeholders it is text.
-/

namespace RowPlan

/-- How a content is spelled between quotation marks. -/
inductive Doubled : List Char → List Char → Prop where
  | nil : Doubled [] []
  | mark {spelling content : List Char} :
      Doubled spelling content → Doubled ('"' :: '"' :: spelling) ('"' :: content)
  | plain {c : Char} {spelling content : List Char} :
      c ≠ '"' → Doubled spelling content → Doubled (c :: spelling) (c :: content)

/-- A text begins with a quoted identifier of a content. The mark that closes it is not the first
of two. -/
def BeginsQuoted (text content after : List Char) : Prop :=
  ∃ spelling, Doubled spelling content ∧ text = '"' :: (spelling ++ '"' :: after) ∧
    after.head? ≠ some '"'

/-! ## Reading -/

/-- Two spellings that are closed have the same content if they begin the same text. -/
theorem Doubled.unique {spelling content other otherContent after rest : List Char}
    (doubled : Doubled spelling content) (otherDoubled : Doubled other otherContent)
    (same : spelling ++ '"' :: after = other ++ '"' :: rest)
    (closed : after.head? ≠ some '"') (otherClosed : rest.head? ≠ some '"') :
    content = otherContent ∧ after = rest := by
  induction doubled generalizing other otherContent with
  | nil =>
      cases otherDoubled with
      | nil => exact ⟨rfl, (List.cons.inj same).2⟩
      | mark _ =>
          obtain ⟨_, rfl⟩ := List.cons.inj same
          exact absurd rfl closed
      | plain different _ => exact absurd (List.cons.inj same).1.symm different
  | mark _ induction =>
      cases otherDoubled with
      | nil =>
          obtain ⟨_, rfl⟩ := List.cons.inj same
          exact absurd rfl otherClosed
      | mark others =>
          obtain ⟨rfl, rfl⟩ := induction others (List.cons.inj (List.cons.inj same).2).2
          exact ⟨rfl, rfl⟩
      | plain different _ => exact absurd (List.cons.inj same).1.symm different
  | plain different _ induction =>
      cases otherDoubled with
      | nil => exact absurd (List.cons.inj same).1 different
      | mark _ => exact absurd (List.cons.inj same).1 different
      | plain _ others =>
          obtain ⟨rfl, later⟩ := List.cons.inj same
          obtain ⟨rfl, rfl⟩ := induction others later
          exact ⟨rfl, rfl⟩

theorem BeginsQuoted.unique {text content otherContent after rest : List Char}
    (begins : BeginsQuoted text content after) (other : BeginsQuoted text otherContent rest) :
    content = otherContent ∧ after = rest := by
  obtain ⟨spelling, doubled, rfl, closed⟩ := begins
  obtain ⟨_, otherDoubled, same, otherClosed⟩ := other
  exact doubled.unique otherDoubled (List.cons.inj same).2 closed otherClosed

/-! ## Quoting -/

theorem doubled_doubleQuotes (text : List Char) : Doubled (Options.doubleQuotes text) text := by
  induction text with
  | nil => exact .nil
  | cons c rest induction =>
      unfold Options.doubleQuotes
      split
      case isTrue isMark =>
        subst isMark
        exact .mark induction
      case isFalse different => exact .plain different induction

section

variable {options : Options} (quoted : options.quoteIdentifiers = true)
include quoted

theorem Options.toList_quote (identifier : String) :
    (options.quote identifier).toList = '"' :: (doubleQuotes identifier.toList ++ ['"']) := by
  rw [quote, if_pos quoted, String.toList_ofList]

theorem beginsQuoted_quote (identifier : String) {after : List Char}
    (closed : after.head? ≠ some '"') :
    BeginsQuoted ((options.quote identifier).toList ++ after) identifier.toList after := by
  refine ⟨_, doubled_doubleQuotes identifier.toList, ?_, closed⟩
  rw [options.toList_quote quoted]
  simp

/-- A quoted identifier alone, with nothing after it. -/
theorem beginsQuoted_quote_alone (identifier : String) :
    BeginsQuoted (options.quote identifier).toList identifier.toList [] := by
  have begins : BeginsQuoted ((options.quote identifier).toList ++ []) identifier.toList [] :=
    beginsQuoted_quote quoted identifier nofun
  rwa [List.append_nil] at begins

/-- A qualified table begins with its schema, and a dot follows. -/
theorem beginsQuoted_tableRef (schema table : String) :
    BeginsQuoted (options.tableRef (some schema) table).toList schema.toList
      ('.' :: (options.quote table).toList) := by
  have dotted : ('.' :: (options.quote table).toList).head? ≠ some '"' := by simp
  have begins := beginsQuoted_quote quoted schema dotted
  simpa [Options.tableRef] using begins

theorem Options.quote_injective : Function.Injective options.quote := by
  intro identifier other same
  have begins := beginsQuoted_quote_alone quoted identifier
  rw [same] at begins
  have contents := (begins.unique (beginsQuoted_quote_alone quoted other)).1
  exact String.toList_inj.mp contents

/-- The schema can be told from the table, and whether there is one. -/
theorem Options.tableRef_unique {schema otherSchema : Option String} {table otherTable : String}
    (same : options.tableRef schema table = options.tableRef otherSchema otherTable) :
    schema = otherSchema ∧ table = otherTable := by
  have bare : ∀ name : String,
      BeginsQuoted (options.tableRef none name).toList name.toList [] :=
    beginsQuoted_quote_alone quoted
  cases schema with
  | none =>
      cases otherSchema with
      | none => exact ⟨rfl, options.quote_injective quoted same⟩
      | some otherSchema =>
          have other := beginsQuoted_tableRef quoted otherSchema otherTable
          rw [← same] at other
          cases ((bare table).unique other).2
  | some schema =>
      have begins := beginsQuoted_tableRef quoted schema table
      rw [same] at begins
      cases otherSchema with
      | none => cases (begins.unique (bare otherTable)).2
      | some otherSchema =>
          obtain ⟨schemas, rest⟩ :=
            begins.unique (beginsQuoted_tableRef quoted otherSchema otherTable)
          have tables := String.toList_inj.mp (List.cons.inj rest).2
          exact ⟨congrArg some (String.toList_inj.mp schemas),
            options.quote_injective quoted tables⟩

end

/-! ## Scanning -/

/-- In a run the scanner passes by a doubled mark as the end of the run and the begin of another,
and is behind the run after the mark that closes it. -/
theorem scanPlaceholders_doubleQuotes (text after : List Char) :
    scanPlaceholders (some '"') 0 (Options.doubleQuotes text ++ '"' :: after) =
      (Options.doubleQuotes text ++ ['"']).map .char ++ scanPlaceholders none 0 after := by
  induction text with
  | nil => simp [Options.doubleQuotes, scanPlaceholders]
  | cons c rest induction =>
      unfold Options.doubleQuotes
      split
      case isTrue => simp [scanPlaceholders, induction]
      case isFalse different => simp [scanPlaceholders, different, induction]

theorem segmentsAfter_chars (before text : List Char) :
    segmentsAfter before 0 (text.map .char) = textSegment (text.reverse ++ before) := by
  induction text generalizing before with
  | nil => rfl
  | cons c rest induction =>
      rw [List.map_cons, segmentsAfter, induction]
      simp

theorem segments_quote {options : Options} (quoted : options.quoteIdentifiers = true)
    (identifier : String) :
    segments (options.quote identifier) = [.text (options.quote identifier)] := by
  have text := options.toList_quote quoted identifier
  have tokens : scanPlaceholders none 0 (options.quote identifier).toList =
      (options.quote identifier).toList.map .char := by
    have inside := scanPlaceholders_doubleQuotes identifier.toList []
    rw [text]
    simp [scanPlaceholders, inside]
  rw [segments, tokens, segmentsAfter_chars, List.append_nil, textSegment]
  simp [text, ← String.toList_inj]

/-- A quoted identifier is read back as it was, whatever comes after it, and is no place for a
placeholder. Names that differ are written differently, and so are tables. -/
theorem quote_reads_back {options : Options} (quoted : options.quoteIdentifiers = true) :
    (∀ identifier : String,
      (∀ after : List Char, after.head? ≠ some '"' → ∀ content rest : List Char,
        BeginsQuoted ((options.quote identifier).toList ++ after) content rest ↔
          content = identifier.toList ∧ rest = after) ∧
      segments (options.quote identifier) = [.text (options.quote identifier)]) ∧
    Function.Injective options.quote ∧
    ∀ schema otherSchema table otherTable,
      options.tableRef schema table = options.tableRef otherSchema otherTable →
        schema = otherSchema ∧ table = otherTable := by
  refine ⟨fun identifier => ⟨?_, segments_quote quoted identifier⟩,
    options.quote_injective quoted, fun _ _ _ _ => options.tableRef_unique quoted⟩
  intro after closed content rest
  have begins := beginsQuoted_quote quoted identifier closed
  constructor
  · exact fun other => other.unique begins
  · rintro ⟨rfl, rfl⟩
    exact begins

/-- Not even a name that looks like the end of a quoted one and a placeholder is taken for it. -/
theorem quote_reads_back_marks :
    ({} : Options).quoteIdentifiers = true ∧
      ({} : Options).quote "car\" = :id" = "\"car\"\" = :id\"" ∧
      segments "\"car\"\" = :id\"" = [.text "\"car\"\" = :id\""] := by
  have quoted : ({} : Options).quoteIdentifiers = true := rfl
  have written : ({} : Options).quote "car\" = :id" = "\"car\"\" = :id\"" := by decide
  have scanned := ((quote_reads_back quoted).1 "car\" = :id").2
  rw [written] at scanned
  exact ⟨quoted, written, scanned⟩

end RowPlan
