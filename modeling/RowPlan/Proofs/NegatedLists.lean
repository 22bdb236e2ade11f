import RowPlan.Proofs.SegmentPlaces

/-!
# Negated lists

For a list alone in the parentheses of `IN` a membership test is put in, and the text
before the word stays. So the test comes directly after `NOT` where the word does, and
nowhere else: `NOT IN` becomes `NOT = ANY`, which is no test at all.
-/

namespace RowPlan

/-- `NOT` in any letter case, with blanks after it. -/
inductive Negation : List Char → Prop where
  | intro {word gap : List Char} :
      word.map Char.toUpper = ['N', 'O', 'T'] → (∀ c, c ∈ gap → isBlank c = true) →
      Negation (word ++ gap)

/-- The last word of a text is `NOT`. -/
def EndsNegated (text : List Char) : Prop :=
  ∃ kept negation, text = kept ++ negation ∧ Negation negation ∧ EndsWord kept

/-- Before a place in a text stands the word `NOT`, and it is not the name of a
placeholder. -/
def NegatedAt (text before : List Char) : Prop :=
  ∃ kept negation, before = kept ++ negation ∧ Negation negation ∧ EndsWord kept ∧
    ∀ earlier name later, PlaceholderAt text earlier name later → kept ≠ earlier ++ [':']

/-- A text has a list of a name after the word `NOT`. -/
def NegatesList (text name : List Char) : Prop :=
  ∃ before opening closing after, ValueAt text before opening name closing after true ∧
    NegatedAt text before

/-- A membership test that is put in for the list of a name is written after the word
`NOT`. -/
def SqlText.NegatesMember (style : MarkerStyle) (text : SqlText) (name : String) : Prop :=
  ∃ left slot right,
    text = left ++ .text "= ANY(" :: .slot (some name) slot :: .text ")" :: right ∧
      slot.isArray = true ∧ EndsNegated (written style {} left).toList

/-! ## The word -/

section

variable {negation : List Char}

theorem start_of_mem_word {word : List Char} (isNot : word.map Char.toUpper = ['N', 'O', 'T'])
    {c : Char} (member : c ∈ word) : isPlaceholderStart c = true := by
  have upper : c.toUpper ∈ ['N', 'O', 'T'] := isNot ▸ List.mem_map_of_mem member
  have letters : ['N', 'O', 'T'].all Char.isUpper = true := rfl
  exact start_of_toUpper rfl (List.all_eq_true.mp letters _ upper)

theorem Negation.characters (isNegation : Negation negation) {c : Char}
    (member : c ∈ negation) : isPlaceholderStart c = true ∨ isBlank c = true := by
  cases isNegation with
  | intro isNot gapBlank =>
      rcases List.mem_append.mp member with inWord | inGap
      · exact .inl (start_of_mem_word isNot inWord)
      · exact .inr (gapBlank c inGap)

theorem Negation.beginsWord (isNegation : Negation negation) : BeginsWord negation := by
  cases isNegation with
  | @intro word gap isNot gapBlank =>
      cases word with
      | nil => cases isNot
      | cons first rest =>
          obtain ⟨start, others⟩ :=
            List.forall_mem_cons.mp fun _ => start_of_mem_word isNot
          exact .intro start (fun c member => part_of_start (others c member))
            fun c member => behind_of_blank (gapBlank c member)

end

/-! ## Written up to a boundary -/

/-- A boundary of segments in a text, and what has been written up to it. What is written
for a value ends with neither a letter nor a blank. -/
inductive WrittenTo (text : List Char) : List Char → List Char → Prop where
  | start : WrittenTo text [] []
  | single {before name after written marker : List Char} :
      PlaceholderAt text before name after → marker ≠ [] →
      (∀ c, c ∈ marker → isPlaceholderStart c = false ∧ isBlank c = false) →
      WrittenTo text (before ++ ':' :: name) (written ++ marker)
  | list {before written : List Char} : WrittenTo text (before ++ [')']) (written ++ [')'])

namespace WrittenTo

variable {text seen written middle rest : List Char}

theorem boundary (reached : WrittenTo text seen written) : SegmentBoundary text seen := by
  cases reached with
  | start => exact .start
  | single found _ _ => exact .single found
  | list => exact .list

theorem last (reached : WrittenTo text seen written) {c : Char}
    (ends : written.getLast? = some c) :
    isPlaceholderStart c = false ∧ isBlank c = false := by
  cases reached with
  | start => cases ends
  | single _ proper quiet =>
      rw [List.getLast?_append_of_ne_nil _ proper] at ends
      exact quiet c (List.mem_of_getLast? ends)
  | list =>
      obtain rfl : ')' = c := by simpa using ends
      exact ⟨rfl, by decide⟩

/-- Behind the boundary a word ends in what is written where one ends in the text. -/
theorem endsWord (reached : WrittenTo text seen written) (ends : EndsWord (seen ++ middle)) :
    EndsWord (written ++ middle) := by
  rcases List.eq_nil_or_concat' middle with rfl | ⟨front, last, rfl⟩
  · rw [List.append_nil] at ends ⊢
    cases reached with
    | start => exact ends
    | @single before name after written marker found _ _ =>
        -- The last character of a name ends no word.
        obtain ⟨nameFront, nameLast, rfl, part⟩ := found.run.last
        rw [← List.cons_append, ← List.append_assoc] at ends
        have noPart := ends.last_not_part List.getLast?_concat
        cases noPart.symm.trans part
    | list =>
        intro c found
        obtain rfl : ')' = c := by simpa using found
        exact ⟨by decide, by decide⟩
  · intro c found
    exact ends c (by simpa [List.getLast?_append] using found)

/-- A negation behind the boundary. -/
theorem negation_behind (reached : WrittenTo text seen written) {kept negation : List Char}
    (split : written ++ middle = kept ++ negation) (isNegation : Negation negation) :
    ∃ between, kept = written ++ between ∧ middle = between ++ negation := by
  rcases List.append_eq_append_iff.mp split with ⟨between, keptShape, middleShape⟩ |
    ⟨cutOff, writtenShape, negationShape⟩
  · exact ⟨between, keptShape, middleShape⟩
  · rcases List.eq_nil_or_concat' cutOff with rfl | ⟨front, last, rfl⟩
    · exact ⟨[], by simpa using writtenShape.symm, by simpa using negationShape.symm⟩
    · -- Otherwise the word begins in what is written for a value.
      obtain ⟨noStart, visible⟩ := reached.last (c := last) (by simp [writtenShape])
      rcases isNegation.characters (c := last) (by simp [negationShape]) with start | blank
      · cases noStart.symm.trans start
      · cases visible.symm.trans blank

theorem endsNegated_iff (reached : WrittenTo text seen written)
    (shape : text = seen ++ (middle ++ rest)) (outside : Place.outside.after seen = .outside)
    (middleExact : Exact .outside (middle.map .char)) :
    EndsNegated (written ++ middle) ↔ NegatedAt text (seen ++ middle) := by
  constructor
  · rintro ⟨kept, negation, split, isNegation, ends⟩
    obtain ⟨between, rfl, rfl⟩ := reached.negation_behind split isNegation
    have begins := isNegation.beginsWord
    have tokensExact : Exact .outside ((between ++ negation).map .char ++ []) := by
      rwa [List.append_nil]
    rw [List.append_assoc] at shape
    refine ⟨seen ++ between, negation, (List.append_assoc ..).symm, isNegation, ?_, ?_⟩
    · exact reached.boundary.endsWord shape begins ends.right
    · intro earlier name later found
      exact reached.boundary.not_named outside tokensExact begins found
  · rintro ⟨kept, negation, split, isNegation, ends, unnamed⟩
    obtain ⟨between, rfl, rfl⟩ :=
      reached.boundary.word_behind shape split isNegation.beginsWord ends unnamed
    exact ⟨written ++ between, negation, (List.append_assoc ..).symm, isNegation,
      reached.endsWord ends⟩

end WrittenTo

/-- A text up to a place, and what has been written up to it: behind a boundary of segments
both have the same characters. -/
inductive WrittenAlike (text : List Char) : List Char → List Char → Prop where
  | intro {seen written middle : List Char} :
      WrittenTo text seen written → Place.outside.after seen = .outside →
      Exact .outside (middle.map .char) → Place.outside.after middle = .outside →
      WrittenAlike text (seen ++ middle) (written ++ middle)

namespace WrittenAlike

variable {text seen written : List Char}

theorem of_boundary (reached : WrittenTo text seen written)
    (outside : Place.outside.after seen = .outside) : WrittenAlike text seen written := by
  have here : WrittenAlike text (seen ++ []) (written ++ []) :=
    .intro reached outside trivial rfl
  rwa [List.append_nil, List.append_nil] at here

theorem endsNegated_iff {rest : List Char} (alike : WrittenAlike text seen written)
    (shape : text = seen ++ rest) : EndsNegated written ↔ NegatedAt text seen := by
  cases alike with
  | intro reached outside middleExact _ =>
      rw [List.append_assoc] at shape
      exact reached.endsNegated_iff shape outside middleExact

theorem part (alike : WrittenAlike text seen written) {part : List Char}
    (partExact : Exact .outside (part.map .char)) (settled : Place.outside.after part = .outside) :
    WrittenAlike text (seen ++ part) (written ++ part) := by
  cases alike with
  | @intro boundary front middle reached outside middleExact middleOutside =>
      rw [List.append_assoc, List.append_assoc]
      refine .intro reached outside ?_ ?_
      · rw [List.map_append]
        refine middleExact.append ?_ ?_
        · rw [middleOutside]
          exact nofun
        · rwa [middleOutside]
      · rw [Place.after_append, middleOutside, settled]

end WrittenAlike

/-! ## Values -/

theorem not_start_of_digit {c : Char} (digit : c.isDigit = true) :
    isPlaceholderStart c = false := by
  apply Bool.eq_false_iff.mpr
  intro start
  rw [isPlaceholderStart, Bool.or_eq_true, isAlpha_iff, beq_iff_eq, ← Char.toNat_inj] at start
  have codes := isDigit_iff.mp digit
  have score : '_'.toNat = 95 := rfl
  omega

/-- No character of a marker is a letter or a blank. -/
theorem marker_quiet (style : MarkerStyle) (number : Nat) {c : Char}
    (member : c ∈ (style.marker number).toList) :
    isPlaceholderStart c = false ∧ isBlank c = false := by
  rcases mem_marker member with rfl | rfl | digit
  · exact ⟨rfl, by decide⟩
  · exact ⟨rfl, by decide⟩
  · exact ⟨not_start_of_digit digit,
      visible_of_part (by simp [isPlaceholderPart, Char.isAlphanum, digit])⟩

theorem ValueAt.alike {text before opening name closing after : List Char} {isList : Bool}
    (here : ValueAt text before opening name closing after isList)
    (written : List Char) (key : String) (slot : BindSlot) (style : MarkerStyle)
    (binding : Binding) :
    WrittenAlike text (before ++ (opening ++ ':' :: (name ++ closing)))
      (written ++ (SqlText.written style binding (valueText key slot isList)).toList) := by
  refine .of_boundary ?_ here.outside
  cases isList with
  | false =>
      obtain ⟨rfl, rfl⟩ := here.single rfl
      have found := here.placeholder
      rw [List.append_nil] at found
      have proper : (style.marker (binding.numberFor style (some key))).toList ≠ [] := by
        rw [MarkerStyle.marker_toList]
        exact List.cons_ne_nil _ _
      rw [valueText, if_neg Bool.false_ne_true, SqlText.written_slot, SqlText.written_nil,
        String.append_empty, List.nil_append, List.append_nil]
      exact .single found proper fun _ => marker_quiet style _
  | true =>
      obtain ⟨_, @⟨gap, _⟩, _⟩ := here.list rfl
      have reached := @WrittenTo.list text (before ++ (opening ++ ':' :: (name ++ gap)))
        (written ++ ("= ANY(".toList ++ (style.marker (binding.numberFor style (some key))).toList))
      simpa [valueText] using reached

theorem ReadsTo.alike {text seen before written : List Char} {left : List Segment}
    (reads : ReadsTo text seen left before) (alike : WrittenAlike text seen written)
    {scope : Scope} {function : FunctionDecl} {bound : SqlText}
    (success : scope.bindPlaceholders function left = .ok bound) (style : MarkerStyle)
    (binding : Binding) :
    WrittenAlike text before (written ++ (SqlText.written style binding bound).toList) := by
  induction reads generalizing written bound binding with
  | nil =>
      cases success
      rwa [SqlText.written_nil, String.toList_empty, List.append_nil]
  | text partExact settled _ induction =>
      obtain ⟨others, othersSuccess, rfl⟩ := Scope.bindPlaceholders_text success
      rw [SqlText.written_text, String.toList_append, String.toList_ofList, ← List.append_assoc]
      exact induction (alike.part partExact settled) othersSuccess binding
  | value here _ induction =>
      obtain ⟨slot, others, _, othersSuccess, rfl⟩ := Scope.bindPlaceholders_value success
      rw [SqlText.written_append, String.toList_append, ← List.append_assoc]
      exact induction (here.alike written _ slot style binding) othersSuccess _

/-- A text whose placeholders name value parameters is bound. With markers of either style, a
membership test comes directly after `NOT` for the lists that do so in the text, and for
no others. -/
theorem negated_member_iff {scope : Scope} {function : FunctionDecl} {text : String}
    (known : ∀ name, name ∈ placeholderNames (segments text) →
      ∃ parameter, parameter ∈ function.values ∧ parameter.name = name) (style : MarkerStyle) :
    ∃ bound, scope.bindPlaceholders function (segments text) = .ok bound ∧
      ∀ name, bound.NegatesMember style name ↔ NegatesList text.toList name.toList := by
  obtain ⟨bound, success⟩ := scope.bindPlaceholders_succeeds known
  have reads := reads_segments text
  have start : WrittenAlike text.toList [] [] := .of_boundary .start rfl
  refine ⟨bound, success, fun name => ?_⟩
  constructor
  · rintro ⟨left, slot, right, rfl, isArray, negated⟩
    obtain ⟨pieces, other, others, split, same, leftSuccess⟩ :=
      Scope.value_of_array success isArray
    cases same
    rw [split] at reads
    obtain ⟨before, opening, closing, after, leftReads, here⟩ := reads.readsTo
    have alike := leftReads.alike start leftSuccess style {}
    have shape := here.placeholder.shape
    rw [List.append_assoc] at shape
    exact ⟨before, opening, closing, after, here, (alike.endsNegated_iff shape).mp negated⟩
  · rintro ⟨before, opening, closing, after, here, negated⟩
    obtain ⟨left, right, split, leftReads⟩ := reads.readsTo_of_list here
    rw [split, String.ofList_toList] at success
    obtain ⟨front, slot, rest, leftSuccess, found, rfl⟩ :=
      Scope.bindPlaceholders_append_value success
    have alike := leftReads.alike start leftSuccess style {}
    have shape := here.placeholder.shape
    rw [List.append_assoc] at shape
    exact ⟨front, slot, rest, rfl, Scope.isArray_of_placeholderSlot found,
      (alike.endsNegated_iff shape).mpr negated⟩

namespace Car

/-- Finds the cars that are not listed. -/
def findOthers : FunctionDecl where
  name := "find_others"
  parameters := [⟨"ids", .named "Vec" [.named "i64"], []⟩]
  returnType := .named "Vec" [{ target := entity }]
  tags := [⟨TagName.condition, [("value", "id NOT IN (:ids)")]⟩]

/-- The slot of the listed cars. -/
def listed : BindSlot where
  path := ["ids"]
  type := .named "Vec" [.named "i64"]
  columnType := some .bigInt
  isArray := true

/-- What the condition is bound to. -/
def others : SqlText :=
  [.text "id NOT ", .text "= ANY(", .slot (some "ids") listed, .text ")"]

theorem bind_others :
    scope.bindPlaceholders findOthers (segments "id NOT IN (:ids)") = .ok others :=
  rfl

theorem others_negatesMember : others.NegatesMember .question "ids" := by
  refine ⟨[.text "id NOT "], listed, [], rfl, rfl, "id ".toList, "NOT ".toList, by decide, ?_, ?_⟩
  · exact @Negation.intro ['N', 'O', 'T'] [' '] (by decide) (List.all_eq_true.mp (by decide))
  · intro c found
    obtain rfl : ' ' = c := by simpa using found
    exact ⟨by decide, by decide⟩

end Car

/-- A list after `NOT`, and its membership test. -/
theorem negated_member_iff_car :
    Car.others.NegatesMember .question "ids" ∧
      NegatesList "id NOT IN (:ids)".toList "ids".toList := by
  have known : ∀ name, name ∈ placeholderNames (segments "id NOT IN (:ids)") →
      ∃ parameter, parameter ∈ Car.findOthers.values ∧ parameter.name = name := by
    have names : placeholderNames (segments "id NOT IN (:ids)") = ["ids"] := by decide
    rw [names]
    exact List.forall_mem_singleton.mpr ⟨_, List.mem_cons_self, rfl⟩
  obtain ⟨bound, success, negates⟩ := @negated_member_iff Car.scope _ _ known .question
  obtain rfl := Except.ok.inj (Car.bind_others.symm.trans success)
  exact ⟨Car.others_negatesMember, (negates "ids").mp Car.others_negatesMember⟩

/-- The cars that are not listed are looked for with `NOT = ANY`. -/
theorem findOthers_negates_member :
    Car.scope.bindPlaceholders Car.findOthers (segments "id NOT IN (:ids)") = .ok Car.others ∧
      Car.others.NegatesMember .question "ids" ∧
      ∃ method, Car.scope.compile Car.findOthers = .ok method ∧
        method.sql = "SELECT \"id\", \"power\", \"revision\" FROM \"car\" WHERE id NOT = ANY(?)" :=
  ⟨Car.bind_others, Car.others_negatesMember, _, rfl, rfl⟩

end RowPlan
