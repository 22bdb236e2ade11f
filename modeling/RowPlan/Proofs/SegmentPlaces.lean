import RowPlan.Proofs.MarkerStyles
import RowPlan.Proofs.SpelledSegments

/-!
# Places of segments

Segments are read from their text one after the other, so that each of them has a place in
the text. Every placeholder is the value of one of them. Bound, each value stands where its
segment does, and an array among the slots is that of a list.
-/

namespace RowPlan

/-! ## Values in the text -/

namespace ValueAt

variable {text before opening name closing after : List Char} {isList : Bool}

theorem plain (here : ValueAt text before opening name closing after isList) {c : Char}
    (member : c ∈ opening ∨ c ∈ closing) : isQuotationMark c = false ∧ c ≠ ':' := by
  cases isList with
  | false =>
      obtain ⟨rfl, rfl⟩ := here.single rfl
      cases member with
      | inl inOpening => cases inOpening
      | inr inClosing => cases inClosing
  | true =>
      obtain ⟨isOpening, isClosing, _⟩ := here.list rfl
      cases member with
      | inl inOpening => exact isOpening.plain inOpening
      | inr inClosing => exact isClosing.plain inClosing

theorem outside (here : ValueAt text before opening name closing after isList) :
    Place.outside.after (before ++ (opening ++ ':' :: (name ++ closing))) = .outside := by
  have complete := complete_iff_after.mp here.placeholder.outside
  have parts : before ++ (opening ++ ':' :: (name ++ closing)) =
      before ++ opening ++ ':' :: name ++ closing := by
    simp
  rw [parts, Place.after_append, Place.after_append, complete, here.placeholder.run.after_eq]
  exact Place.after_plain fun c member => here.plain (.inr member)

end ValueAt

/-- Before a list the opening is found from the end of the text, so it is unique. -/
theorem ListOpening.unique {before other opening otherOpening : List Char}
    (same : before ++ opening = other ++ otherOpening) (isOpening : ListOpening opening)
    (otherIsOpening : ListOpening otherOpening) (ends : EndsWord before)
    (otherEnds : EndsWord other) : before = other := by
  have found : ∀ {kept opening : List Char}, ListOpening opening → EndsWord kept →
      beforeListOpening (kept ++ opening).reverse = some kept.reverse := by
    intro kept opening isOpening ends
    rw [beforeListOpening_eq_some_iff, List.reverse_reverse, List.reverse_reverse]
    exact ⟨opening, rfl, isOpening, ends⟩
  have both := found isOpening ends
  rw [same, found otherIsOpening otherEnds] at both
  exact (List.reverse_inj.mp (Option.some.inj both)).symm

/-- The segments of a text from one place to another. -/
inductive ReadsTo (text : List Char) : List Char → List Segment → List Char → Prop where
  | nil {seen : List Char} : ReadsTo text seen [] seen
  | text {seen part before : List Char} {others : List Segment} :
      Exact .outside (part.map .char) → Place.outside.after part = .outside →
      ReadsTo text (seen ++ part) others before →
      ReadsTo text seen (.text (String.ofList part) :: others) before
  | value {seen opening name closing after before : List Char} {isList : Bool}
      {others : List Segment} :
      ValueAt text seen opening name closing after isList →
      ReadsTo text (seen ++ (opening ++ ':' :: (name ++ closing))) others before →
      ReadsTo text seen (.value (String.ofList name) isList :: others) before

/-- What stands before a value among segments, and the text up to it. -/
theorem Reads.readsTo {text seen : List Char} {left right : List Segment} {name : String}
    {isList : Bool} (reads : Reads text seen (left ++ .value name isList :: right)) :
    ∃ before opening closing after, ReadsTo text seen left before ∧
      ValueAt text before opening name.toList closing after isList := by
  generalize whole : left ++ .value name isList :: right = pieces at reads
  induction reads generalizing left with
  | nil => simp at whole
  | @text seen part others partExact settled reads induction =>
      cases left with
      | nil => cases whole
      | cons piece left =>
          obtain ⟨rfl, rfl⟩ := List.cons.inj whole
          obtain ⟨before, opening, closing, after, leftReads, here⟩ := induction rfl
          have outside := settled.resolve_left (by simp)
          exact ⟨before, opening, closing, after, .text partExact outside leftReads, here⟩
  | @value seen opening word closing after _ others here reads induction =>
      cases left with
      | nil =>
          cases whole
          exact ⟨seen, opening, closing, after, .nil, by rwa [String.toList_ofList]⟩
      | cons piece left =>
          obtain ⟨rfl, rfl⟩ := List.cons.inj whole
          obtain ⟨before, innerOpening, innerClosing, innerAfter, leftReads, inner⟩ :=
            induction rfl
          exact ⟨before, innerOpening, innerClosing, innerAfter, .value here leftReads, inner⟩

namespace PlaceholderAt

variable {text before token rest earlier name later : List Char}

theorem not_behind_text (found : PlaceholderAt text earlier name later) : ¬ text <+: earlier := by
  intro begins
  have shorter := begins.length_le
  have lengths := congrArg List.length found.shape
  simp only [List.length_append, List.length_cons] at lengths
  omega

/-- No placeholder begins among characters without a colon. -/
theorem behind_plain (found : PlaceholderAt text earlier name later) (begins : before <+: earlier)
    (shape : text = before ++ token ++ rest) (plain : ':' ∉ token) :
    before ++ token <+: earlier := by
  have single : ':' ∉ token.tail := fun member => plain (List.mem_of_mem_tail member)
  rcases found.next_or_later begins shape single with ⟨rfl, here⟩ | behind
  · cases token with
    | nil => simp
    | cons c token =>
        obtain ⟨rfl, _⟩ := List.cons.inj here
        exact (plain List.mem_cons_self).elim
  · exact behind

/-- No placeholder begins in a part of the text that has none. -/
theorem behind_part (found : PlaceholderAt text earlier name later) (begins : before <+: earlier)
    (shape : text = before ++ token ++ rest) (outside : Place.outside.after before = .outside)
    (partExact : Exact .outside (token.map .char))
    (settled : rest = [] ∨ Place.outside.after token = .outside) : before ++ token <+: earlier := by
  obtain ⟨more, rfl⟩ := begins
  have paths : token ++ rest = more ++ ':' :: (name ++ later) := by
    have both := shape.symm.trans found.shape
    simpa using both
  rcases List.append_eq_append_iff.mp paths with ⟨cutOff, rfl, _⟩ |
    ⟨cutOff, tokenShape, restShape⟩
  · rw [← List.append_assoc]
    exact List.prefix_append _ _
  · cases cutOff with
    | nil => simp [tokenShape]
    | cons c cutOff =>
        exfalso
        obtain ⟨rfl, follows⟩ := List.cons.inj restShape
        have complete := complete_iff_after.mp found.outside
        rw [Place.after_append, outside] at complete
        obtain ⟨first, others, rfl, starts⟩ := found.run.begins
        cases cutOff with
        | nil =>
            rcases settled with rfl | settled
            · cases follows
            · rw [tokenShape, Place.after_append, complete] at settled
              cases settled
        | cons next cutOff =>
            obtain ⟨rfl, _⟩ := List.cons.inj follows
            rw [tokenShape, List.append_cons, List.map_append] at partExact
            have noStart := partExact.no_start_after_colon complete first (by simp)
            cases noStart.symm.trans starts

end PlaceholderAt

/-- A placeholder behind a place in the text is among the segments. -/
theorem Reads.readsTo_of_placeholderAt {text seen earlier name later : List Char}
    {pieces : List Segment} (reads : Reads text seen pieces)
    (found : PlaceholderAt text earlier name later) (begins : seen <+: earlier)
    (outside : Place.outside.after seen = .outside) :
    ∃ left isList right before opening closing after,
      pieces = left ++ .value (String.ofList name) isList :: right ∧
      ReadsTo text seen left before ∧ ValueAt text before opening name closing after isList ∧
      before ++ opening = earlier := by
  induction reads with
  | nil => exact (found.not_behind_text begins).elim
  | @text seen part others partExact settled reads induction =>
      obtain ⟨rest, shape, spells⟩ := reads.spells
      have ends : rest = [] ∨ Place.outside.after part = .outside := by
        rcases settled with rfl | settled
        · cases spells
          exact .inl rfl
        · exact .inr settled
      have behind := found.behind_part begins shape outside partExact ends
      rcases settled with rfl | settled
      · cases reads
        exact (found.not_behind_text behind).elim
      · have outsidePart : Place.outside.after (seen ++ part) = .outside := by
          rw [Place.after_append, outside, settled]
        obtain ⟨left, isList, right, before, opening, closing, after, rfl, leftReads, here⟩ :=
          induction behind outsidePart
        exact ⟨.text (String.ofList part) :: left, isList, right, before, opening, closing,
          after, rfl, .text partExact settled leftReads, here⟩
  | @value seen opening word closing after isList others here reads induction =>
      -- The placeholder is that of the value, or comes after all that the value replaces.
      have shape : text = seen ++ opening ++ (':' :: word) ++ (closing ++ after) := by
        simpa using here.placeholder.shape
      have shapeBehind : text = seen ++ opening ++ (':' :: word) ++ closing ++ after := by
        simpa using here.placeholder.shape
      have openingBehind := found.behind_plain begins here.placeholder.shape
        fun member => (here.plain (.inl member)).2 rfl
      rcases found.next_or_later openingBehind shape (colon_not_part here.placeholder.run.parts)
        with ⟨rfl, same⟩ | behind
      · obtain ⟨_, follows⟩ := List.cons.inj same
        obtain rfl := here.placeholder.run.unique found.run follows
        exact ⟨[], isList, others, seen, opening, closing, after, rfl, .nil, here, rfl⟩
      · have closingBehind := found.behind_plain behind shapeBehind
          fun member => (here.plain (.inr member)).2 rfl
        have assoc : seen ++ opening ++ (':' :: word) ++ closing =
            seen ++ (opening ++ ':' :: (word ++ closing)) := by
          simp
        rw [assoc] at closingBehind
        obtain ⟨left, innerIsList, right, before, innerOpening, innerClosing, innerAfter, rfl,
          leftReads, inner⟩ := induction closingBehind here.outside
        exact ⟨.value (String.ofList word) isList :: left, innerIsList, right, before,
          innerOpening, innerClosing, innerAfter, rfl, .value here leftReads, inner⟩

/-- A list of the text is among the segments. -/
theorem Reads.readsTo_of_list {text before opening name closing after : List Char}
    {pieces : List Segment} (reads : Reads text [] pieces)
    (here : ValueAt text before opening name closing after true) :
    ∃ left right, pieces = left ++ .value (String.ofList name) true :: right ∧
      ReadsTo text [] left before := by
  obtain ⟨left, isList, right, other, otherOpening, otherClosing, otherAfter, rfl, leftReads,
    there, same⟩ := reads.readsTo_of_placeholderAt here.placeholder List.nil_prefix rfl
  have sameAfter : otherClosing ++ otherAfter = closing ++ after := by
    have both := there.placeholder.shape.symm.trans here.placeholder.shape
    rw [same] at both
    simpa using both
  have stands : StandsForList text (other ++ otherOpening) (otherClosing ++ otherAfter) := by
    rw [same, sameAfter]
    exact here.stands.mp rfl
  obtain rfl := there.stands.mpr stands
  obtain ⟨isOpening, _, ends⟩ := here.list rfl
  obtain ⟨otherIsOpening, _, otherEnds⟩ := there.list rfl
  obtain rfl := otherIsOpening.unique same isOpening otherEnds ends
  exact ⟨left, right, rfl, leftReads⟩

/-! ## Bound segments -/

/-- The text for a value: its slot, or the membership test of a list. -/
def valueText (name : String) (slot : BindSlot) (isList : Bool) : SqlText :=
  if isList then [.text "= ANY(", .slot (some name) slot, .text ")"] else [.slot (some name) slot]

/-- Where a text begins with a membership test, the tests in it are this one and those
behind it. -/
theorem cut_of_test {name : String} {key : Option String} {slot other : BindSlot}
    {others before after : SqlText}
    (shape : before ++ .text "= ANY(" :: .slot key other :: after =
      valueText name slot true ++ others) :
    before = [] ∧ key = some name ∨
      ∃ later, before = valueText name slot true ++ later ∧
        others = later ++ .text "= ANY(" :: .slot key other :: after := by
  rw [valueText, if_pos rfl] at shape ⊢
  rcases before with _ | ⟨opening, _ | ⟨marker, _ | ⟨closing, later⟩⟩⟩
  · cases shape
    exact .inl ⟨rfl, rfl⟩
  · cases shape
  · simp at shape
  · simp only [List.cons_append, List.cons.injEq] at shape
    obtain ⟨rfl, rfl, rfl, rfl⟩ := shape
    exact .inr ⟨later, rfl, rfl⟩

namespace Scope

variable {scope : Scope} {function : FunctionDecl} {pieces left right : List Segment}
  {bound : SqlText}

theorem bindPlaceholders_cons_text {part : String} {rest : List Segment} {others : SqlText}
    (success : scope.bindPlaceholders function rest = .ok others) :
    scope.bindPlaceholders function (.text part :: rest) = .ok (.text part :: others) := by
  rw [bindPlaceholders, success]
  rfl

theorem bindPlaceholders_cons_value {name : String} {isList : Bool} {slot : BindSlot}
    {rest : List Segment} {others : SqlText}
    (found : scope.placeholderSlot function name isList = some slot)
    (success : scope.bindPlaceholders function rest = .ok others) :
    scope.bindPlaceholders function (.value name isList :: rest) =
      .ok (valueText name slot isList ++ others) := by
  rw [bindPlaceholders, found, success]
  rfl

/-- Placeholders of value parameters are bound. -/
theorem bindPlaceholders_succeeds (scope : Scope)
    (known : ∀ name, name ∈ placeholderNames pieces →
      ∃ parameter, parameter ∈ function.values ∧ parameter.name = name) :
    ∃ bound, scope.bindPlaceholders function pieces = .ok bound := by
  induction pieces with
  | nil => exact ⟨[], rfl⟩
  | cons piece rest induction =>
      cases piece with
      | text part =>
          obtain ⟨others, success⟩ := induction known
          exact ⟨_, bindPlaceholders_cons_text success⟩
      | value name isList =>
          obtain ⟨⟨parameter, member, rfl⟩, later⟩ := List.forall_mem_cons.mp known
          obtain ⟨others, success⟩ := induction later
          have named : (function.values.find? fun other => other.name == parameter.name).isSome :=
            List.find?_isSome.mpr ⟨parameter, member, beq_self_eq_true _⟩
          obtain ⟨first, found⟩ := Option.isSome_iff_exists.mp named
          exact ⟨_, bindPlaceholders_cons_value (Option.map_eq_some_iff.mpr ⟨first, found, rfl⟩)
            success⟩

theorem bindPlaceholders_append_value {name : String} {isList : Bool}
    (success : scope.bindPlaceholders function (left ++ .value name isList :: right) = .ok bound) :
    ∃ before slot after, scope.bindPlaceholders function left = .ok before ∧
      scope.placeholderSlot function name isList = some slot ∧
      bound = before ++ (valueText name slot isList ++ after) := by
  induction left generalizing bound with
  | nil =>
      obtain ⟨slot, after, found, _, rfl⟩ := bindPlaceholders_value success
      exact ⟨[], slot, after, rfl, found, rfl⟩
  | cons piece left induction =>
      cases piece with
      | text part =>
          obtain ⟨others, othersSuccess, rfl⟩ := bindPlaceholders_text success
          obtain ⟨before, slot, after, leftSuccess, found, rfl⟩ := induction othersSuccess
          exact ⟨_, slot, after, bindPlaceholders_cons_text leftSuccess, found, rfl⟩
      | value other otherIsList =>
          obtain ⟨first, others, firstFound, othersSuccess, rfl⟩ := bindPlaceholders_value success
          obtain ⟨before, slot, after, leftSuccess, found, rfl⟩ := induction othersSuccess
          refine ⟨_, slot, after, bindPlaceholders_cons_value firstFound leftSuccess, found, ?_⟩
          rw [List.append_assoc]
          rfl

/-- A slot that comes first is that of a single value. -/
theorem single_of_first_slot {key : Option String} {slot : BindSlot} {after : SqlText}
    (success : scope.bindPlaceholders function pieces = .ok (.slot key slot :: after)) :
    slot.isArray = false := by
  match pieces with
  | [] => cases success
  | .text part :: rest =>
      obtain ⟨_, _, shape⟩ := bindPlaceholders_text success
      cases shape
  | .value name isList :: rest =>
      obtain ⟨first, others, found, _, shape⟩ := bindPlaceholders_value success
      cases isList with
      | true => cases shape
      | false =>
          cases shape
          exact isArray_of_placeholderSlot found

/-- An array among the slots is that of a list. -/
theorem value_of_array {before after : SqlText} {key : Option String} {slot : BindSlot}
    (success : scope.bindPlaceholders function pieces =
      .ok (before ++ .text "= ANY(" :: .slot key slot :: after))
    (isArray : slot.isArray = true) :
    ∃ left name right, pieces = left ++ .value name true :: right ∧ key = some name ∧
      scope.bindPlaceholders function left = .ok before := by
  induction pieces generalizing before with
  | nil => simp [bindPlaceholders] at success
  | cons piece rest induction =>
      cases piece with
      | text part =>
          obtain ⟨others, othersSuccess, shape⟩ := bindPlaceholders_text success
          cases before with
          | nil =>
              obtain ⟨_, rfl⟩ := List.cons.inj shape
              have single := single_of_first_slot othersSuccess
              cases single.symm.trans isArray
          | cons fragment before =>
              obtain ⟨rfl, rfl⟩ := List.cons.inj shape
              obtain ⟨left, name, right, rfl, named, leftSuccess⟩ := induction othersSuccess
              exact ⟨.text part :: left, name, right, rfl, named,
                bindPlaceholders_cons_text leftSuccess⟩
      | value name isList =>
          obtain ⟨first, others, found, othersSuccess, shape⟩ := bindPlaceholders_value success
          cases isList with
          | false =>
              cases before with
              | nil => cases shape
              | cons fragment before =>
                  obtain ⟨rfl, rfl⟩ := List.cons.inj shape
                  obtain ⟨left, other, right, rfl, named, leftSuccess⟩ :=
                    induction othersSuccess
                  exact ⟨.value name false :: left, other, right, rfl, named,
                    bindPlaceholders_cons_value found leftSuccess⟩
          | true =>
              rcases cut_of_test shape with ⟨rfl, rfl⟩ | ⟨later, rfl, rfl⟩
              · exact ⟨[], name, rest, rfl, rfl, rfl⟩
              · obtain ⟨left, other, right, rfl, named, leftSuccess⟩ :=
                  induction othersSuccess
                exact ⟨.value name true :: left, other, right, rfl, named,
                  bindPlaceholders_cons_value found leftSuccess⟩

end Scope

end RowPlan
