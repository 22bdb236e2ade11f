import RowPlan.Proofs.JsonNumber
import RowPlan.Proofs.ModelCodec

/-!
# JSON texts

`Json.Standard` describes the values that a text can hold, by their nesting, their numbers and the
keys of their objects. Each of them is read back from the text that is written of it, and no other
value is ever read. Options are read back from their texts, and so are class models that a text can
hold.
-/

namespace RowPlan

namespace Json

/-- A value that a text can hold, with arrays and objects nested to at most some depth. -/
inductive Standard : Nat → Json → Prop where
  | null {depth : Nat} : Standard depth null
  | bool {depth : Nat} {value : Bool} : Standard depth (bool value)
  | number {depth : Nat} {json : Json} : IsNumber json → Standard depth json
  | string {depth : Nat} {value : String} : Standard depth (string value)
  | array {depth : Nat} {items : List Json} :
      (∀ item, item ∈ items → Standard depth item) → Standard (depth + 1) (array items)
  | object {depth : Nat} {members : List (String × Json)} :
      (members.map Prod.fst).Nodup →
      (∀ member, member ∈ members → Standard depth member.2) →
      Standard (depth + 1) (object members)

/-! ## Texts -/

theorem hexValue?_hexDigit : ∀ value, value < 16 → hexValue? (hexDigit value) = some value := by
  decide

theorem readUnit_escaped {code : Nat} (small : code < 0x20) (rest : List Char) :
    readUnit ('0' :: '0' :: hexDigit (code / 16) :: hexDigit (code % 16) :: rest) =
      some (code, rest) := by
  have zero : hexValue? '0' = some 0 := by decide
  have value : ((0 * 16 + 0) * 16 + code / 16) * 16 + code % 16 = code := by omega
  rw [readUnit, zero, hexValue?_hexDigit _ (by omega), hexValue?_hexDigit _ (by omega)]
  dsimp only [Option.bind_eq_bind, Option.bind_some]
  rw [value]

theorem readText_escapeChar (read : List Char) (fuel : Nat) (c : Char) (rest : List Char) :
    readText read (fuel + 1) (escapeChar c ++ rest) = readText (c :: read) fuel rest := by
  by_cases quote : c = '"'
  · subst quote
    rfl
  by_cases backslash : c = '\\'
  · subst backslash
    rfl
  by_cases control : c.toNat < 0x20
  · have notHigh : ¬ (0xD800 ≤ c.toNat && c.toNat < 0xDC00) = true := by
      simp
      omega
    have notLow : ¬ (0xDC00 ≤ c.toNat && c.toNat < 0xE000) = true := by
      simp
      omega
    have code : readEscape
        (['u', '0', '0', hexDigit (c.toNat / 16), hexDigit (c.toNat % 16)] ++ rest) =
          some (c, rest) := by
      show readCode ('0' :: '0' :: hexDigit (c.toNat / 16) :: hexDigit (c.toNat % 16) :: rest) = _
      rw [readCode, readUnit_escaped control]
      dsimp only [Option.bind_eq_bind, Option.bind_some]
      rw [if_neg notHigh, if_neg notLow, Char.ofNat_toNat]
    have escaped : escapeChar c =
        ['\\', 'u', '0', '0', hexDigit (c.toNat / 16), hexDigit (c.toNat % 16)] := by
      rw [escapeChar, if_neg quote, if_neg backslash, if_pos control]
    rw [escaped, List.cons_append, readText, if_neg (by decide), if_pos rfl, code]
    rfl
  · have plain : escapeChar c = [c] := by
      rw [escapeChar, if_neg quote, if_neg backslash, if_neg control]
    rw [plain, List.cons_append, List.nil_append, readText, if_neg quote, if_neg backslash,
      if_neg control]

theorem readText_escaped (value : List Char) {fuel : Nat} (enough : value.length < fuel)
    (read rest : List Char) :
    readText read fuel (value.flatMap escapeChar ++ '"' :: rest) =
      some (String.ofList (read.reverse ++ value), rest) := by
  induction value generalizing fuel read with
  | nil =>
      obtain ⟨fuel, rfl⟩ := Nat.exists_eq_add_one_of_ne_zero (Nat.ne_zero_of_lt enough)
      rw [List.append_nil]
      rfl
  | cons c more induction =>
      obtain ⟨fuel, rfl⟩ := Nat.exists_eq_add_one_of_ne_zero (Nat.ne_zero_of_lt enough)
      rw [List.flatMap_cons, List.append_assoc, readText_escapeChar,
        induction (Nat.lt_of_succ_lt_succ enough), List.reverse_cons, List.append_assoc]
      rfl

theorem length_le_flatMap_escapeChar (value : List Char) :
    value.length ≤ (value.flatMap escapeChar).length := by
  induction value with
  | nil => exact Nat.le_refl _
  | cons c more induction =>
      have present : 0 < (escapeChar c).length := by
        unfold escapeChar
        split
        · decide
        · split
          · decide
          · split
            · exact Nat.succ_pos _
            · exact Nat.one_pos
      rw [List.flatMap_cons, List.length_append, List.length_cons]
      omega

theorem quoted_toList (value : String) (rest : List Char) :
    (quoted value).toList ++ rest = '"' :: (value.toList.flatMap escapeChar ++ '"' :: rest) := by
  simp [quoted]

/-- A text is read back after its opening quote. -/
theorem readText_quoted (value : String) (rest : List Char) :
    let after := value.toList.flatMap escapeChar ++ '"' :: rest
    readText [] (after.length + 1) after = some (value, rest) := by
  intro after
  have enough : value.toList.length < after.length + 1 := by
    have shorter := length_le_flatMap_escapeChar value.toList
    simp only [after, List.length_append]
    omega
  rw [readText_escaped value.toList enough]
  simp

/-! ## Series -/

theorem skipSpace_cons {c : Char} (visible : isSpace c = false) (rest : List Char) :
    skipSpace (c :: rest) = c :: rest := by
  rw [skipSpace, List.dropWhile_cons_of_neg (by simp [visible])]

theorem endsNumber_of_mark {mark : Char} (marks : mark = ',' ∨ mark = ']' ∨ mark = '\x7d')
    (rest : List Char) : EndsNumber (mark :: rest) := by
  intro c first
  cases first
  rcases marks with rfl | rfl | rfl <;> decide

/-- A text that begins neither with a blank nor with a closing bracket. -/
def Begins (text : List Char) : Prop :=
  ∃ c rest, text = c :: rest ∧ isSpace c = false ∧ c ≠ ']' ∧ c ≠ '\x7d'

/-- The texts of some parts with commas between them. -/
def seriesText {α : Type} (write : α → String) (parts : List α) : List Char :=
  (",".intercalate (parts.map write)).toList

section

variable {α : Type} {close : Char} {readPart : Reader α} {write : α → String} {parts : List α}

theorem seriesText_nil : seriesText write [] = [] := by
  simp [seriesText]

theorem seriesText_singleton (part : α) : seriesText write [part] = (write part).toList := by
  simp [seriesText]

theorem seriesText_cons_cons (part next : α) (more : List α) :
    seriesText write (part :: next :: more) =
      (write part).toList ++ ',' :: seriesText write (next :: more) := by
  simp [seriesText]

theorem seriesText_begins (part : α) (more : List α) :
    ∃ later, seriesText write (part :: more) = (write part).toList ++ later := by
  cases more with
  | nil => exact ⟨[], by rw [seriesText_singleton, List.append_nil]⟩
  | cons next more => exact ⟨_, seriesText_cons_cons part next more⟩

theorem length_le_seriesText (begins : ∀ part, part ∈ parts → Begins (write part).toList) :
    parts.length ≤ (seriesText write parts).length := by
  induction parts with
  | nil => exact Nat.zero_le _
  | cons part more induction =>
      obtain ⟨⟨c, rest, shape, _⟩, others⟩ := List.forall_mem_cons.mp begins
      have shorter := induction others
      cases more with
      | nil =>
          rw [seriesText_singleton, shape]
          exact Nat.le_add_left _ _
      | cons next more =>
          rw [seriesText_cons_cons, List.length_append, shape]
          simp only [List.length_cons] at shorter ⊢
          omega

theorem readSeries_text (closes : close = ']' ∨ close = '\x7d') (present : parts ≠ [])
    (each : ∀ part, part ∈ parts → ∀ rest, EndsNumber rest →
      readPart ((write part).toList ++ rest) = some (part, rest))
    {fuel : Nat} (enough : parts.length ≤ fuel) (rest : List Char) :
    readSeries close readPart fuel (seriesText write parts ++ close :: rest) =
      some (parts, rest) := by
  induction parts generalizing fuel with
  | nil => exact (present rfl).elim
  | cons part more induction =>
      obtain ⟨fuel, rfl⟩ := Nat.exists_eq_add_one_of_ne_zero (Nat.ne_zero_of_lt enough)
      obtain ⟨first, others⟩ := List.forall_mem_cons.mp each
      cases more with
      | nil =>
          have read := first (close :: rest) (endsNumber_of_mark (.inr closes) rest)
          have closing : close ≠ ',' ∧ isSpace close = false := by
            rcases closes with rfl | rfl <;> decide
          simp [seriesText_singleton, readSeries, read, skipSpace_cons closing.2, closing.1]
      | cons next more =>
          have later := induction (List.cons_ne_nil _ _) others (Nat.le_of_succ_le_succ enough)
          have read := first _ (endsNumber_of_mark (.inl rfl)
            (seriesText write (next :: more) ++ close :: rest))
          have comma : isSpace ',' = false := rfl
          rw [seriesText_cons_cons, List.append_assoc, List.cons_append, readSeries, read]
          simp [skipSpace_cons comma, later]

/-- Parts are read back up to the bracket that closes them. -/
theorem readParts_text (closes : close = ']' ∨ close = '\x7d')
    (begins : ∀ part, part ∈ parts → Begins (write part).toList)
    (each : ∀ part, part ∈ parts → ∀ rest, EndsNumber rest →
      readPart ((write part).toList ++ rest) = some (part, rest)) (rest : List Char) :
    readParts close readPart (seriesText write parts ++ close :: rest) = some (parts, rest) := by
  cases parts with
  | nil =>
      have visible : isSpace close = false := by
        rcases closes with rfl | rfl <;> rfl
      rw [seriesText_nil, List.nil_append, readParts, skipSpace_cons visible]
      exact if_pos rfl
  | cons part more =>
      have enough : (part :: more).length ≤
          (seriesText write (part :: more) ++ close :: rest).length + 1 := by
        have shorter := length_le_seriesText begins
        rw [List.length_append]
        omega
      have read := readSeries_text closes (List.cons_ne_nil part more) each enough rest
      obtain ⟨c, text, shape, visible, noBracket, noBrace⟩ := begins part List.mem_cons_self
      have notClosed : c ≠ close := by
        rcases closes with rfl | rfl
        · exact noBracket
        · exact noBrace
      obtain ⟨later, first⟩ := @seriesText_begins _ write part more
      have skipped : skipSpace (seriesText write (part :: more) ++ close :: rest) =
          c :: (text ++ (later ++ close :: rest)) := by
        rw [first, shape, List.append_assoc, List.cons_append]
        exact skipSpace_cons visible _
      rw [readParts, skipped]
      exact (if_neg notClosed).trans read

end

/-! ## Values -/

def memberText (member : String × Json) : String :=
  quoted member.1 ++ ":" ++ member.2.text

theorem itemTexts_eq_map (items : List Json) : itemTexts items = items.map text := by
  induction items with
  | nil => rfl
  | cons item rest induction => rw [itemTexts, induction, List.map_cons]

theorem memberTexts_eq_map (members : List (String × Json)) :
    memberTexts members = members.map memberText := by
  induction members with
  | nil => rfl
  | cons member rest induction =>
      obtain ⟨key, value⟩ := member
      rw [memberTexts, induction, List.map_cons, memberText]

theorem array_text (items : List Json) (rest : List Char) :
    (array items).text.toList ++ rest = '[' :: (seriesText text items ++ ']' :: rest) := by
  simp [Json.text, seriesText, itemTexts_eq_map]

theorem object_text (members : List (String × Json)) (rest : List Char) :
    (object members).text.toList ++ rest =
      '\x7b' :: (seriesText memberText members ++ '\x7d' :: rest) := by
  simp [Json.text, seriesText, memberTexts_eq_map]

theorem memberText_toList (member : String × Json) (rest : List Char) :
    (memberText member).toList ++ rest =
      '"' :: (member.1.toList.flatMap escapeChar ++
        '"' :: ':' :: (member.2.text.toList ++ rest)) := by
  simp [memberText, quoted]

theorem readMember_text {readItem : Reader Json} {member : String × Json} {rest : List Char}
    (read : readItem (member.2.text.toList ++ rest) = some (member.2, rest)) :
    readMember readItem ((memberText member).toList ++ rest) = some (member, rest) := by
  have key := readText_quoted member.1 (':' :: (member.2.text.toList ++ rest))
  have quote : isSpace '"' = false := rfl
  have colon : isSpace ':' = false := rfl
  dsimp only at key
  simp only [memberText_toList, readMember, skipSpace_cons quote, key, Option.bind_eq_bind,
    Option.bind_some, skipSpace_cons colon, read]

theorem lastMembers_of_nodup {members : List (String × Json)}
    (distinct : (members.map Prod.fst).Nodup) : lastMembers members = members := by
  induction members with
  | nil => rfl
  | cons member rest induction =>
      obtain ⟨fresh, others⟩ := List.nodup_cons.mp distinct
      have unrepeated : (rest.any fun other => other.1 == member.1) = false := by
        rw [List.any_eq_false]
        intro other among
        simp only [beq_iff_eq]
        intro same
        exact fresh (same ▸ List.mem_map_of_mem among)
      rw [lastMembers, unrepeated, if_neg Bool.false_ne_true, induction others]

/-! ### Characters at the front -/

theorem isSpace_of_isDigit {c : Char} (digit : c.isDigit = true) : isSpace c = false := by
  rw [Bool.eq_false_iff]
  intro space
  simp only [isSpace, Bool.or_eq_true, beq_iff_eq] at space
  rcases space with ((rfl | rfl) | rfl) | rfl <;> cases digit

theorem StartsNumber.begins {text : List Char} (starts : StartsNumber text) : Begins text := by
  obtain ⟨c, rest, shape, digit | rfl⟩ := starts
  · refine ⟨c, rest, shape, isSpace_of_isDigit digit, ?_, ?_⟩
    · rintro rfl
      cases digit
    · rintro rfl
      cases digit
  · exact ⟨'-', rest, shape, by decide, by decide, by decide⟩

theorem begins_of_shape {text : List Char} {c : Char} {after : List Char → List Char}
    (shape : ∀ rest, text ++ rest = c :: after rest)
    (opens : isSpace c = false ∧ c ≠ ']' ∧ c ≠ '\x7d') : Begins text := by
  have first := shape []
  rw [List.append_nil] at first
  exact ⟨c, after [], first, opens⟩

theorem begins_text {depth : Nat} {json : Json} (standard : Standard depth json) :
    Begins json.text.toList := by
  cases standard with
  | null => exact ⟨'n', "ull".toList, by decide, by decide, by decide, by decide⟩
  | @bool _ value =>
      cases value with
      | true => exact ⟨'t', "rue".toList, by decide, by decide, by decide, by decide⟩
      | false => exact ⟨'f', "alse".toList, by decide, by decide, by decide, by decide⟩
  | number isNumber => exact (startsNumber_text isNumber).begins
  | @string _ value => exact begins_of_shape (quoted_toList value) (by decide)
  | @array _ items => exact begins_of_shape (array_text items) (by decide)
  | @object _ members => exact begins_of_shape (object_text members) (by decide)

theorem begins_memberText (member : String × Json) : Begins (memberText member).toList :=
  begins_of_shape (memberText_toList member) (by decide)

theorem readValue_number {text : List Char} (starts : StartsNumber text) (depth : Nat) :
    readValue depth text = readNumber text := by
  obtain ⟨c, rest, rfl, first⟩ := starts
  have visible : isSpace c = false := by
    rcases first with digit | rfl
    · exact isSpace_of_isDigit digit
    · rfl
  rw [readValue, skipSpace_cons visible]
  -- No other value begins with a digit or the sign.
  split
  case h_7 => rfl
  all_goals
    rename_i shape
    cases shape
    rcases first with digit | minus
    · cases digit
    · cases minus

section

variable (depth : Nat) (text : List Char)

theorem readValue_quote :
    readValue depth ('"' :: text) =
      (readText [] (text.length + 1) text).map fun (value, rest) => (string value, rest) := by
  rw [readValue]
  rfl

theorem readValue_bracket :
    readValue (depth + 1) ('[' :: text) =
      (readParts ']' (readValue depth) text).map fun (items, rest) => (array items, rest) := by
  rw [readValue]
  rfl

theorem readValue_brace :
    readValue (depth + 1) ('\x7b' :: text) =
      (readParts '\x7d' (readMember (readValue depth)) text).map fun (members, rest) =>
        (object (lastMembers members), rest) := by
  rw [readValue]
  rfl

end

/-- A value is read back from its text, whatever comes after it that does not go on with a
number. -/
theorem readValue_text {depth : Nat} {json : Json} (standard : Standard depth json) :
    ∀ rest, EndsNumber rest → readValue depth (json.text.toList ++ rest) = some (json, rest) := by
  induction standard with
  | null =>
      intro rest _
      rw [readValue]
      rfl
  | @bool _ value =>
      intro rest _
      rw [readValue]
      cases value with
      | true => rfl
      | false => rfl
  | number isNumber =>
      intro rest ends
      rw [readValue_number ((startsNumber_text isNumber).append rest)]
      exact readNumber_text isNumber ends
  | @string _ value =>
      intro rest _
      have read := readText_quoted value rest
      rw [Json.text, quoted_toList, readValue_quote, read]
      rfl
  | @array depth items standard induction =>
      intro rest _
      have read := readParts_text (.inl rfl)
        (fun item member => begins_text (standard item member)) induction rest
      rw [array_text, readValue_bracket, read]
      rfl
  | @object depth members distinct standard induction =>
      intro rest _
      have each : ∀ member, member ∈ members → ∀ rest, EndsNumber rest →
          readMember (readValue depth) ((memberText member).toList ++ rest) =
            some (member, rest) :=
        fun member among rest ends => readMember_text (induction member among rest ends)
      have read := readParts_text (.inr rfl) (fun member _ => begins_memberText member) each rest
      rw [object_text, readValue_brace, read]
      show some (object (lastMembers members), rest) = _
      rw [lastMembers_of_nodup distinct]

/-! ## Values that are read -/

section

variable {α : Type} {close : Char} {readPart : Reader α} {parts : List α}

theorem read_of_readSeries {fuel : Nat} {text rest : List Char}
    (read : readSeries close readPart fuel text = some (parts, rest)) :
    ∀ part, part ∈ parts → ∃ text rest, readPart text = some (part, rest) := by
  induction fuel generalizing text parts with
  | zero => cases read
  | succ fuel induction =>
      obtain ⟨⟨part, after⟩, first, read⟩ := Option.bind_eq_some_iff.mp read
      dsimp only at read
      split at read
      case h_1 => cases read
      case h_2 mark more _ =>
        split at read
        case isTrue =>
          obtain ⟨⟨others, last⟩, later, read⟩ := Option.bind_eq_some_iff.mp read
          cases read
          exact List.forall_mem_cons.mpr ⟨⟨text, after, first⟩, induction later⟩
        case isFalse =>
          split at read
          case isTrue =>
            cases read
            exact List.forall_mem_singleton.mpr ⟨text, after, first⟩
          case isFalse => cases read

theorem read_of_readParts {text rest : List Char}
    (read : readParts close readPart text = some (parts, rest)) :
    ∀ part, part ∈ parts → ∃ text rest, readPart text = some (part, rest) := by
  unfold readParts at read
  split at read
  case h_1 => cases read
  case h_2 =>
    split at read
    case isTrue =>
      cases read
      exact nofun
    case isFalse => exact read_of_readSeries read

end

theorem value_of_readMember {readItem : Reader Json} {member : String × Json}
    {text rest : List Char} (read : readMember readItem text = some (member, rest)) :
    ∃ text rest, readItem text = some (member.2, rest) := by
  unfold readMember at read
  split at read
  case h_1 =>
    obtain ⟨⟨key, after⟩, _, read⟩ := Option.bind_eq_some_iff.mp read
    dsimp only at read
    split at read
    case h_1 =>
      obtain ⟨⟨value, last⟩, found, read⟩ := Option.bind_eq_some_iff.mp read
      cases read
      exact ⟨_, _, found⟩
    case h_2 => cases read
  case h_2 => cases read

theorem lastMembers_sublist (members : List (String × Json)) :
    (lastMembers members).Sublist members := by
  induction members with
  | nil => exact .slnil
  | cons member rest induction =>
      rw [lastMembers]
      split
      · exact induction.cons member
      · exact induction.cons_cons member

theorem keys_lastMembers_nodup (members : List (String × Json)) :
    ((lastMembers members).map Prod.fst).Nodup := by
  induction members with
  | nil => exact List.nodup_nil
  | cons member rest induction =>
      rw [lastMembers]
      split
      case isTrue => exact induction
      case isFalse unrepeated =>
        rw [List.map_cons, List.nodup_cons]
        refine ⟨?_, induction⟩
        intro repeated
        obtain ⟨other, among, same⟩ := List.mem_map.mp repeated
        apply unrepeated
        rw [List.any_eq_true]
        exact ⟨other, (lastMembers_sublist rest).subset among, by simpa using same⟩

/-- What is read is a value that a text can hold. -/
theorem standard_of_readValue {depth : Nat} {text rest : List Char} {json : Json}
    (read : readValue depth text = some (json, rest)) : Standard depth json := by
  induction depth using Nat.strongRecOn generalizing text rest json with
  | ind depth induction =>
      rw [readValue] at read
      split at read
      case h_1 =>
        cases read
        exact .null
      case h_2 =>
        cases read
        exact .bool
      case h_3 =>
        cases read
        exact .bool
      case h_4 =>
        obtain ⟨⟨value, after⟩, _, shape⟩ := Option.map_eq_some_iff.mp read
        cases shape
        exact .string
      case h_5 =>
        cases depth with
        | zero => cases read
        | succ depth =>
            obtain ⟨⟨items, after⟩, found, shape⟩ := Option.map_eq_some_iff.mp read
            cases shape
            apply Standard.array
            intro item member
            obtain ⟨text, rest, itemRead⟩ := read_of_readParts found item member
            exact induction depth (Nat.lt_succ_self depth) itemRead
      case h_6 =>
        cases depth with
        | zero => cases read
        | succ depth =>
            obtain ⟨⟨members, after⟩, found, shape⟩ := Option.map_eq_some_iff.mp read
            cases shape
            apply Standard.object (keys_lastMembers_nodup members)
            intro member last
            have among := (lastMembers_sublist members).subset last
            obtain ⟨_, _, memberRead⟩ := read_of_readParts found member among
            obtain ⟨text, rest, valueRead⟩ := value_of_readMember memberRead
            exact induction depth (Nat.lt_succ_self depth) valueRead
      case h_7 => exact .number (isNumber_of_readNumber read)

theorem ofText?_text {json : Json} (standard : Standard depthLimit json) :
    ofText? json.text = some json := by
  have read := readValue_text standard [] nofun
  rw [List.append_nil] at read
  rw [ofText?, read]
  rfl

theorem standard_of_ofText? {text : String} {json : Json} (read : ofText? text = some json) :
    Standard depthLimit json := by
  obtain ⟨⟨value, rest⟩, read, ended⟩ := Option.bind_eq_some_iff.mp read
  dsimp only at ended
  split at ended
  case isTrue =>
    cases ended
    exact standard_of_readValue read
  case isFalse => cases ended

/-- The values that texts hold are those that are read back from what is written of them. -/
theorem ofText?_text_iff {json : Json} :
    ofText? json.text = some json ↔ ∃ text, ofText? text = some json := by
  constructor
  · intro read
    exact ⟨json.text, read⟩
  · rintro ⟨text, read⟩
    exact ofText?_text (standard_of_ofText? read)

end Json

/-! ## Options and class models -/

theorem Options.standard_toJson (options : Options) :
    options.toJson.Standard Json.depthLimit := by
  have schema : (Json.ofOption Json.string options.defaultSchema).Standard 126 := by
    cases options.defaultSchema with
    | none => exact .null
    | some schema => exact .string
  have markers : options.markers.toJson.Standard 126 := by
    cases options.markers with
    | question => exact .string
    | numbered => exact .string
  have cap : (Json.integer options.singleResultCap.toNat).Standard 126 := by
    have bound : options.singleResultCap.toNat < 2 ^ 32 := options.singleResultCap.toNat_lt_size
    exact .number (.integer (by omega) (by omega))
  apply Json.Standard.object
  · show ["placeholders", "default_schema", "quote_identifiers", "single_result_cap",
      "default_database"].Nodup
    decide
  · simp only [List.forall_mem_cons]
    exact ⟨markers, schema, .bool, cap, .string, nofun⟩

/-- Options are read back from the text that is written of them. -/
theorem Options.ofText?_text (options : Options) :
    (Json.ofText? options.toJson.text).bind Options.ofJson? = some options := by
  rw [Json.ofText?_text options.standard_toJson]
  exact options.rereads options.toJson (.same _ _)

/-- So is a class model that a text can hold. -/
theorem ClassDecl.ofText?_text {cls : ClassDecl}
    (standard : cls.toJson.Standard Json.depthLimit) :
    (Json.ofText? cls.toJson.text).bind ClassDecl.ofJson? = some cls := by
  rw [Json.ofText?_text standard]
  exact cls.rereads cls.toJson (.same _ _)

end RowPlan
