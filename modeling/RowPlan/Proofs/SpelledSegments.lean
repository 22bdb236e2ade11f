import RowPlan.Proofs.Layout
import RowPlan.Proofs.ListParentheses

/-!
# Segments spell their text

Segments written back give the text that they were taken from. A value is a list
where its placeholder stands alone in the parentheses of `IN`, and that `IN` is not
the name of another placeholder. Bound and written with markers, they have no
placeholder any more.
-/

namespace RowPlan

/-- Segments, and a text that they spell: a single value is written as its placeholder,
and a list with its parentheses. -/
inductive Spells : List Segment → List Char → Prop where
  | nil : Spells [] []
  | text {part rest : List Char} {others : List Segment} :
      Spells others rest → Spells (.text (String.ofList part) :: others) (part ++ rest)
  | single {name rest : List Char} {others : List Segment} :
      Spells others rest →
      Spells (.value (String.ofList name) false :: others) (':' :: (name ++ rest))
  | list {opening name closing rest : List Char} {others : List Segment} :
      ListOpening opening → ListClosing closing → Spells others rest →
      Spells (.value (String.ofList name) true :: others)
        (opening ++ ':' :: (name ++ (closing ++ rest)))

/-- A placeholder between two texts is alone in the parentheses of an `IN` that is not
the name of another placeholder. -/
def StandsForList (text before after : List Char) : Prop :=
  ∃ kept, AloneInList kept before after ∧
    ∀ earlier name later, PlaceholderAt text earlier name later → kept ≠ earlier ++ [':']

/-- A value with the text that its segment replaces: the placeholder and, where it
stands for a list, the word before it with the parentheses. -/
structure ValueAt (text before opening name closing after : List Char) (isList : Bool) :
    Prop where
  placeholder : PlaceholderAt text (before ++ opening) name (closing ++ after)
  single : isList = false → opening = [] ∧ closing = []
  list : isList = true → ListOpening opening ∧ ListClosing closing ∧ EndsWord before
  stands : isList = true ↔ StandsForList text (before ++ opening) (closing ++ after)

/-! ## Reading a text in two parts -/

theorem Exact.split {place : Place} {left : List Char} {right : List SqlToken}
    (both : Exact place (left.map .char ++ right)) :
    Exact place (left.map .char) ∧ Exact (place.after left) right := by
  induction left generalizing place with
  | nil => exact ⟨trivial, both⟩
  | cons c left induction =>
      obtain ⟨noName, later⟩ := both
      obtain ⟨leftExact, rightExact⟩ := induction later
      refine ⟨⟨?_, leftExact⟩, rightExact⟩
      intro outside colon first found
      apply noName outside colon first
      simp only [tokensText_chars] at found
      change (tokensText (left.map .char ++ right)).head? = some first
      rw [tokensText_append, tokensText_chars, List.head?_append, found]
      rfl

/-- A colon at the end of the first part could begin a placeholder of the second. -/
theorem Exact.append {place : Place} {left : List Char} {right : List SqlToken}
    (leftExact : Exact place (left.map .char)) (settled : place.after left ≠ .afterColon)
    (rightExact : Exact (place.after left) right) :
    Exact place (left.map .char ++ right) := by
  induction left generalizing place with
  | nil => exact rightExact
  | cons c left induction =>
      obtain ⟨noName, later⟩ := leftExact
      refine ⟨?_, induction later settled rightExact⟩
      intro outside colon first found
      cases left with
      | nil =>
          subst outside colon
          exact (settled rfl).elim
      | cons next left => exact noName outside colon first found

theorem exact_plain (place : Place) {text : List Char}
    (plain : ∀ c, c ∈ text → isQuotationMark c = false ∧ c ≠ ':') :
    Exact place (text.map .char) := by
  induction text generalizing place with
  | nil => trivial
  | cons c rest induction =>
      obtain ⟨⟨_, noColon⟩, restPlain⟩ := List.forall_mem_cons.mp plain
      exact ⟨fun _ colon => (noColon colon).elim, induction (place.next c) restPlain⟩

theorem Exact.plain_append {text : List Char} {right : List SqlToken}
    (plain : ∀ c, c ∈ text → isQuotationMark c = false ∧ c ≠ ':')
    (rightExact : Exact .outside right) : Exact .outside (text.map .char ++ right) := by
  have stays := Place.after_plain plain
  refine (exact_plain .outside plain).append ?_ ?_
  · rw [stays]
    exact nofun
  · rwa [stays]

/-- No name comes directly after a colon among the characters, except behind a cast. -/
theorem Exact.no_start_after_colon {left : List Char} {tokens : List SqlToken}
    (tokensExact : Exact .outside ((left ++ [':']).map .char ++ tokens))
    (outside : Place.outside.after left = .outside) (first : Char)
    (follows : (tokensText tokens).head? = some first) : isPlaceholderStart first = false := by
  rw [List.map_append, List.append_assoc] at tokensExact
  have later := tokensExact.split.2
  rw [outside] at later
  exact later.1 rfl rfl first follows

theorem Complete.of_pending {text : List Char} (complete : Complete text true) :
    ∃ before, text = before ++ [':'] ∧ Complete before false := by
  cases complete with
  | colon before => exact ⟨_, rfl, before⟩

/-- What stays before a list is complete. -/
theorem outside_before_opening {kept opening : List Char} {tokens : List SqlToken}
    (isOpening : ListOpening opening)
    (tokensExact : Exact .outside ((kept ++ opening).map .char ++ tokens))
    (outside : Place.outside.after (kept ++ opening) = .outside) :
    Place.outside.after kept = .outside := by
  have ends := Place.ends_after kept
  rw [Place.after_append] at outside
  cases place : Place.outside.after kept with
  | outside => rfl
  | afterColon =>
      rw [place] at ends
      obtain ⟨before, rfl, complete⟩ := ends.of_pending
      obtain ⟨first, rest, rfl, starts⟩ := isOpening.beginsWord.starts
      rw [List.map_append, List.append_assoc] at tokensExact
      have noStart := tokensExact.no_start_after_colon (complete_iff_after.mp complete) first rfl
      cases noStart.symm.trans starts
  | within mark =>
      rw [place] at ends outside
      obtain ⟨_, _, _, _, _, isMark, _⟩ := ends
      have absent : mark ∉ opening := by
        intro member
        have noMark := (isOpening.plain member).1
        cases noMark.symm.trans isMark
      rw [Place.after_body absent] at outside
      cases outside

/-! ## Places between segments -/

/-- Where a segment may begin. -/
inductive SegmentBoundary (text : List Char) : List Char → Prop where
  | start : SegmentBoundary text []
  | single {before name after : List Char} :
      PlaceholderAt text before name after → SegmentBoundary text (before ++ ':' :: name)
  | list {before : List Char} : SegmentBoundary text (before ++ [')'])

theorem EndsWord.right {left right : List Char} (ends : EndsWord (left ++ right)) :
    EndsWord right := by
  intro c last
  exact ends c (by simp [List.getLast?_append, last])

theorem NameRun.last {name after : List Char} (run : NameRun name after) :
    ∃ front last, name = front ++ [last] ∧ isPlaceholderPart last = true := by
  rcases List.eq_nil_or_concat' name with rfl | ⟨front, last, rfl⟩
  · obtain ⟨first, rest, shape, _⟩ := run.begins
    cases shape
  · exact ⟨front, last, rfl, run.parts last (by simp)⟩

theorem NameRun.part_of_last {before name after front : List Char} {last : Char}
    (run : NameRun name after) (same : before ++ ':' :: name = front ++ [last]) :
    isPlaceholderPart last = true := by
  obtain ⟨nameFront, nameLast, rfl, part⟩ := run.last
  rw [← List.cons_append, ← List.append_assoc] at same
  rwa [← List.singleton_inj.mp (List.append_inj_right' same rfl)]

theorem PlaceholderAt.not_continued {text before name after rest : List Char} {c : Char}
    (found : PlaceholderAt text before name after)
    (shape : text = before ++ ':' :: name ++ c :: rest) : isPlaceholderPart c = false := by
  have same : after = c :: rest := by
    have both := found.shape.symm.trans shape
    simpa using both
  exact found.run.ends c (by simp [same])

/-- A word at the end of a placeholder is all of its name. -/
theorem NameRun.word_at_end {earlier name after kept word : List Char}
    (run : NameRun name after) (same : earlier ++ ':' :: name = kept ++ word)
    (parts : ∀ c, c ∈ word → isPlaceholderPart c = true) (ends : EndsWord kept) :
    kept = earlier ++ [':'] := by
  rw [List.append_cons] at same
  rcases List.append_eq_append_iff.mp same with ⟨middle, keptShape, nameShape⟩ |
    ⟨middle, earlierShape, wordShape⟩
  · rcases List.eq_nil_or_concat' middle with rfl | ⟨front, last, rfl⟩
    · simpa using keptShape
    · have part := run.parts last (by simp [nameShape])
      rw [← List.append_assoc] at keptShape
      have noPart := ends.last_not_part (c := last) (by rw [keptShape, List.getLast?_concat])
      cases noPart.symm.trans part
  · rcases List.eq_nil_or_concat' middle with rfl | ⟨front, last, rfl⟩
    · simpa using earlierShape.symm
    · rw [← List.append_assoc] at earlierShape
      obtain rfl := List.singleton_inj.mp (List.append_inj_right' earlierShape rfl)
      cases parts ':' (by simp [wordShape])

namespace SegmentBoundary

variable {text seen kept word : List Char}

/-- A word begins behind the boundary only where none ends before it. -/
theorem endsWord {middle rest : List Char} (boundary : SegmentBoundary text seen)
    (shape : text = seen ++ (middle ++ (word ++ rest))) (begins : BeginsWord word)
    (ends : EndsWord middle) : EndsWord (seen ++ middle) := by
  cases middle with
  | cons c middle =>
      intro last found
      exact ends last (by simpa [List.getLast?_append] using found)
  | nil =>
      rw [List.append_nil]
      cases boundary with
      | start => exact nofun
      | list =>
          intro last found
          obtain rfl : ')' = last := by simpa using found
          exact ⟨by decide, by decide⟩
      | @single before name after found =>
          -- The word would go on with the name.
          obtain ⟨first, others, rfl, starts⟩ := begins.starts
          have noPart := found.not_continued shape
          cases noPart.symm.trans (part_of_start starts)

/-- The colon of a placeholder is not the last character before a word among characters. -/
theorem not_named {middle : List Char} {tokens : List SqlToken}
    (boundary : SegmentBoundary text seen) (outside : Place.outside.after seen = .outside)
    (tokensExact : Exact .outside ((middle ++ word).map .char ++ tokens))
    (begins : BeginsWord word) {earlier name later : List Char}
    (found : PlaceholderAt text earlier name later) : seen ++ middle ≠ earlier ++ [':'] := by
  intro same
  rcases List.eq_nil_or_concat' middle with rfl | ⟨front, last, rfl⟩
  · rw [List.append_nil] at same
    cases boundary with
    | start => simp at same
    | list => simp at same
    | @single before name after other =>
        have part := other.run.part_of_last same
        cases part
  · -- The colon is one of the characters, and no name comes directly after it.
    rw [← List.append_assoc] at same
    obtain ⟨rfl, ends⟩ := List.append_inj' same rfl
    obtain rfl := List.singleton_inj.mp ends
    obtain ⟨first, rest, rfl, starts⟩ := begins.starts
    have complete := complete_iff_after.mp found.outside
    rw [Place.after_append, outside] at complete
    rw [List.map_append, List.append_assoc] at tokensExact
    have noStart := tokensExact.no_start_after_colon complete first rfl
    cases noStart.symm.trans starts

/-- A word that is not the name of a placeholder is behind the boundary. -/
theorem word_behind {before rest : List Char} (boundary : SegmentBoundary text seen)
    (shape : text = seen ++ (before ++ rest)) (split : seen ++ before = kept ++ word)
    (begins : BeginsWord word) (ends : EndsWord kept)
    (unnamed : ∀ earlier name later, PlaceholderAt text earlier name later →
      kept ≠ earlier ++ [':']) :
    ∃ middle, kept = seen ++ middle ∧ before = middle ++ word := by
  rcases List.append_eq_append_iff.mp split with ⟨middle, keptShape, beforeShape⟩ |
    ⟨cutOff, seenShape, wordShape⟩
  · exact ⟨middle, keptShape, beforeShape⟩
  · rcases List.eq_nil_or_concat' cutOff with rfl | ⟨front, last, rfl⟩
    · exact ⟨[], by simpa using seenShape.symm, by simpa using wordShape.symm⟩
    · -- Otherwise the word begins before the boundary and goes on behind it.
      exfalso
      cases boundary with
      | start => simp at seenShape
      | list =>
          rw [← List.append_assoc] at seenShape
          obtain rfl := List.singleton_inj.mp (List.append_inj_right' seenShape rfl)
          exact begins.closing_not_mem (by simp [wordShape])
      | @single earlier name after found =>
          have lastPart : isPlaceholderPart last = true := by
            rw [← List.append_assoc] at seenShape
            exact found.run.part_of_last seenShape
          rcases begins.cut wordShape (by simp) lastPart with ⟨n, others, rfl, nPart⟩ | parts
          · -- The name would go on with the rest of the word.
            have noPart := found.not_continued shape
            cases noPart.symm.trans nPart
          · -- The whole word is the name, or ends one.
            exact unnamed earlier name after found
              (found.run.word_at_end seenShape parts ends)

end SegmentBoundary

/-! ## Gathering -/

/-- Segments for what a text has after `seen`. No text among them has a placeholder, and
all but the last are complete. -/
inductive Reads (text : List Char) : List Char → List Segment → Prop where
  | nil : Reads text text []
  | text {seen part : List Char} {others : List Segment} :
      Exact .outside (part.map .char) → (others = [] ∨ Place.outside.after part = .outside) →
      Reads text (seen ++ part) others →
      Reads text seen (.text (String.ofList part) :: others)
  | value {seen opening name closing after : List Char} {isList : Bool}
      {others : List Segment} :
      ValueAt text seen opening name closing after isList →
      Reads text (seen ++ (opening ++ ':' :: (name ++ closing))) others →
      Reads text seen (.value (String.ofList name) isList :: others)

theorem Reads.textSegment {text seen before : List Char} {others : List Segment}
    (partExact : Exact .outside (before.reverse.map .char))
    (settled : others = [] ∨ Place.outside.after before.reverse = .outside)
    (reads : Reads text (seen ++ before.reverse) others) :
    Reads text seen (textSegment before ++ others) := by
  cases before with
  | nil => simpa [RowPlan.textSegment] using reads
  | cons c before => exact .text partExact settled reads

/-- What has been gathered and the tokens to come give the text behind the boundary. -/
structure Gathering (text seen before : List Char) (tokens : List SqlToken) : Prop where
  shape : text = seen ++ (before.reverse ++ tokensText tokens)
  outside : Place.outside.after seen = .outside
  tokensExact : Exact .outside (before.reverse.map .char ++ tokens)
  boundary : SegmentBoundary text seen

namespace Gathering

variable {text seen before name : List Char} {c : Char} {tokens rest : List SqlToken}

theorem char (gathering : Gathering text seen before (.char c :: rest)) :
    Gathering text seen (c :: before) rest where
  shape := by simpa using gathering.shape
  outside := gathering.outside
  tokensExact := by simpa using gathering.tokensExact
  boundary := gathering.boundary

theorem placeholderAt (gathering : Gathering text seen before (.name name :: rest)) :
    PlaceholderAt text (seen ++ before.reverse) name (tokensText rest) := by
  obtain ⟨outside, run, _⟩ := gathering.tokensExact.split.2
  refine ⟨by simpa using gathering.shape, complete_iff_after.mpr ?_, run⟩
  rw [Place.after_append, gathering.outside, outside]

/-- After a single value. -/
theorem single (gathering : Gathering text seen before (.name name :: rest)) :
    Gathering text (seen ++ before.reverse ++ ':' :: name) [] rest := by
  have found := gathering.placeholderAt
  obtain ⟨outside, run, restExact⟩ := gathering.tokensExact.split.2
  refine ⟨by simpa using gathering.shape, ?_, restExact, .single found⟩
  rw [Place.after_append, complete_iff_after.mp found.outside, run.after_eq]

/-- After a list. -/
theorem list {kept opening closing : List Char} {others : List SqlToken}
    (gathering : Gathering text seen before (.name name :: (closing.map .char ++ others)))
    (split : before.reverse = kept ++ opening) (isClosing : ListClosing closing) :
    Gathering text (seen ++ kept ++ (opening ++ ':' :: (name ++ closing))) [] others := by
  have found := gathering.placeholderAt
  obtain ⟨_, run, restExact⟩ := gathering.tokensExact.split.2
  have stays : Place.outside.after closing = .outside :=
    Place.after_plain fun c member => isClosing.plain member
  have afterName : Place.outside.after (seen ++ before.reverse ++ ':' :: name) = .outside := by
    rw [Place.after_append, complete_iff_after.mp found.outside, run.after_eq]
  have othersExact := restExact.split.2
  rw [stays] at othersExact
  have parts : seen ++ kept ++ (opening ++ ':' :: (name ++ closing)) =
      seen ++ before.reverse ++ ':' :: name ++ closing := by
    simp [split]
  refine ⟨?_, ?_, othersExact, ?_⟩
  · rw [parts, gathering.shape]
    simp
  · rw [parts, Place.after_append, afterName, stays]
  · cases isClosing with
    | @intro gap _ =>
        have ends : seen ++ kept ++ (opening ++ ':' :: (name ++ (gap ++ [')']))) =
            seen ++ kept ++ (opening ++ ':' :: (name ++ gap)) ++ [')'] := by
          simp
        rw [ends]
        exact .list

theorem endsWord {kept opening : List Char}
    (gathering : Gathering text seen before (.name name :: rest))
    (split : before.reverse = kept ++ opening) (isOpening : ListOpening opening)
    (ends : EndsWord kept) : EndsWord (seen ++ kept) := by
  have shape := gathering.shape
  rw [split, List.append_assoc] at shape
  exact gathering.boundary.endsWord shape isOpening.beginsWord ends

/-- The gathered text ends with an opening, and a closing comes next, where the
placeholder stands for a list. -/
theorem standsForList_iff (gathering : Gathering text seen before (.name name :: rest)) :
    StandsForList text (seen ++ before.reverse) (tokensText rest) ↔
      (∃ kept, beforeListOpening before = some kept) ∧
        ∃ length, listClosingLength rest = some length := by
  constructor
  · rintro ⟨kept, ⟨⟨opening, split, isOpening⟩, ⟨closing, later, tail, isClosing⟩, ends⟩,
      unnamed⟩
    obtain ⟨middle, rfl, reversed⟩ := gathering.boundary.word_behind gathering.shape
      split isOpening.beginsWord ends unnamed
    refine ⟨⟨middle.reverse, ?_⟩, listClosingLength_of_closing tail isClosing⟩
    rw [beforeListOpening_eq_some_iff, List.reverse_reverse]
    exact ⟨opening, reversed, isOpening, ends.right⟩
  · rintro ⟨⟨kept, openingFound⟩, length, closingFound⟩
    obtain ⟨opening, split, isOpening, ends⟩ := beforeListOpening_eq_some_iff.mp openingFound
    obtain ⟨closing, isClosing, tail⟩ := closing_of_listClosingLength closingFound
    have tokensExact := gathering.tokensExact
    rw [split] at tokensExact
    refine ⟨seen ++ kept.reverse, ⟨⟨opening, by simp [split], isOpening⟩, ?_, ?_⟩, ?_⟩
    · exact ⟨closing, tokensText (rest.drop length), tokensText_of_closing tail, isClosing⟩
    · exact gathering.endsWord split isOpening ends
    · intro earlier word later found
      exact gathering.boundary.not_named gathering.outside tokensExact isOpening.beginsWord found

theorem valueAt_single (gathering : Gathering text seen before (.name name :: rest))
    (noList : ∀ kept length, beforeListOpening before = some kept →
      listClosingLength rest = some length → False) :
    ValueAt text (seen ++ before.reverse) [] name [] (tokensText rest) false where
  placeholder := by simpa using gathering.placeholderAt
  single := fun _ => ⟨rfl, rfl⟩
  list := nofun
  stands := by
    rw [List.append_nil, List.nil_append, gathering.standsForList_iff]
    refine ⟨nofun, ?_⟩
    rintro ⟨⟨kept, openingFound⟩, length, closingFound⟩
    exact (noList kept length openingFound closingFound).elim

theorem valueAt_list (gathering : Gathering text seen before (.name name :: rest))
    {kept opening closing : List Char} {length : Nat}
    (openingFound : beforeListOpening before = some kept)
    (closingFound : listClosingLength rest = some length)
    (split : before.reverse = kept.reverse ++ opening) (isOpening : ListOpening opening)
    (ends : EndsWord kept.reverse) (isClosing : ListClosing closing)
    (tail : rest = closing.map .char ++ rest.drop length) :
    ValueAt text (seen ++ kept.reverse) opening name closing (tokensText (rest.drop length))
      true := by
  have found := gathering.placeholderAt
  have stands := gathering.standsForList_iff.mpr ⟨⟨kept, openingFound⟩, length, closingFound⟩
  rw [split, ← List.append_assoc, tokensText_of_closing tail] at found stands
  exact ⟨found, nofun, fun _ => ⟨isOpening, isClosing, gathering.endsWord split isOpening ends⟩,
    ⟨fun _ => stands, fun _ => rfl⟩⟩

end Gathering

/-- The segments that are gathered read the text behind the boundary. -/
theorem Gathering.reads {text seen before : List Char} {skipped : Nat}
    {tokens : List SqlToken} (gathering : Gathering text seen before (tokens.drop skipped)) :
    Reads text seen (segmentsAfter before skipped tokens) := by
  -- What has been gathered becomes a part of the text behind the boundary at each name,
  -- and the boundary moves behind the name or behind the parentheses of its list.
  induction tokens generalizing seen before skipped with
  | nil =>
      rw [List.drop_nil] at gathering
      have shape : text = seen ++ before.reverse := by
        simpa using gathering.shape
      have partExact : Exact .outside (before.reverse.map .char) :=
        gathering.tokensExact.split.1
      have reads : Reads text (seen ++ before.reverse) [] := by
        rw [← shape]
        exact .nil
      have gathered := Reads.textSegment partExact (.inl rfl) reads
      rwa [List.append_nil] at gathered
  | cons token rest induction =>
      cases skipped with
      | succ skipped => exact induction gathering
      | zero =>
          cases token with
          | char c =>
              have gathered : Gathering text seen (c :: before) (rest.drop 0) :=
                gathering.char
              exact induction gathered
          | name name =>
              rw [List.drop_zero] at gathering
              have partExact := gathering.tokensExact
              have outside : Place.outside.after before.reverse = .outside :=
                partExact.split.2.1
              rw [segmentsAfter]
              split
              case h_1 kept length openingFound closingFound =>
                obtain ⟨opening, split, isOpening, ends⟩ :=
                  beforeListOpening_eq_some_iff.mp openingFound
                obtain ⟨closing, isClosing, tail⟩ := closing_of_listClosingLength closingFound
                have here := gathering.valueAt_list openingFound closingFound split isOpening
                  ends isClosing tail
                have gathered : Gathering text seen before
                    (.name name :: (closing.map .char ++ rest.drop length)) := by
                  rwa [← tail]
                have later := induction (gathered.list split isClosing)
                rw [split] at partExact outside
                have keptOutside := outside_before_opening isOpening partExact outside
                rw [List.map_append, List.append_assoc] at partExact
                exact Reads.textSegment partExact.split.1 (.inr keptOutside)
                  (.value here later)
              case h_2 noList =>
                have here := gathering.valueAt_single noList
                have later : Reads text (seen ++ before.reverse ++ ([] ++ ':' :: (name ++ [])))
                    (segmentsAfter [] 0 rest) := by
                  rw [List.nil_append, List.append_nil]
                  exact induction gathering.single
                exact Reads.textSegment partExact.split.1 (.inr outside) (.value here later)

theorem reads_segments (text : String) : Reads text.toList [] (segments text) := by
  have gathering : Gathering text.toList [] []
      ((scanPlaceholders none 0 text.toList).drop 0) := by
    refine ⟨?_, rfl, exact_scanPlaceholders (.inl rfl), .start⟩
    exact (tokensText_scanPlaceholders none 0 text.toList).symm
  exact gathering.reads

/-! ## Writing back -/

theorem ValueAt.spells {text before opening name closing after rest : List Char}
    {isList : Bool} {others : List Segment}
    (here : ValueAt text before opening name closing after isList)
    (spells : Spells others rest) :
    Spells (.value (String.ofList name) isList :: others)
      (opening ++ ':' :: (name ++ (closing ++ rest))) := by
  cases isList with
  | false =>
      obtain ⟨rfl, rfl⟩ := here.single rfl
      exact .single spells
  | true =>
      obtain ⟨isOpening, isClosing, _⟩ := here.list rfl
      exact .list isOpening isClosing spells

theorem Reads.spells {text seen : List Char} {pieces : List Segment}
    (reads : Reads text seen pieces) : ∃ rest, text = seen ++ rest ∧ Spells pieces rest := by
  induction reads with
  | nil => exact ⟨[], (List.append_nil text).symm, .nil⟩
  | @text seen part _ _ _ _ induction =>
      obtain ⟨rest, shape, spells⟩ := induction
      exact ⟨part ++ rest, by simpa using shape, .text spells⟩
  | @value seen opening name closing _ _ _ here _ induction =>
      obtain ⟨rest, shape, spells⟩ := induction
      exact ⟨opening ++ ':' :: (name ++ (closing ++ rest)), by simpa using shape,
        here.spells spells⟩

/-- Each value comes from a placeholder. What the segments on its left and on its right
spell is the text before what it replaces, and after that. -/
theorem Reads.valueAt {text seen : List Char} {left right : List Segment} {name : String}
    {isList : Bool} (reads : Reads text seen (left ++ .value name isList :: right)) :
    ∃ before opening closing after, Spells left before ∧ Spells right after ∧
      ValueAt text (seen ++ before) opening name.toList closing after isList := by
  generalize whole : left ++ .value name isList :: right = pieces at reads
  induction reads generalizing left with
  | nil => simp at whole
  | @text seen part others _ _ _ induction =>
      cases left with
      | nil => cases whole
      | cons piece left =>
          obtain ⟨rfl, rfl⟩ := List.cons.inj whole
          obtain ⟨before, opening, closing, after, leftSpells, rightSpells, here⟩ :=
            induction rfl
          rw [List.append_assoc] at here
          exact ⟨part ++ before, opening, closing, after, .text leftSpells, rightSpells, here⟩
  | @value seen opening word closing after _ others here reads induction =>
      cases left with
      | nil =>
          obtain ⟨same, rfl⟩ := List.cons.inj whole
          cases same
          obtain ⟨rest, shape, spells⟩ := reads.spells
          obtain rfl : after = rest := by
            have both := here.placeholder.shape.symm.trans shape
            simpa using both
          refine ⟨[], opening, closing, after, .nil, spells, ?_⟩
          rwa [List.append_nil, String.toList_ofList]
      | cons piece left =>
          obtain ⟨rfl, rfl⟩ := List.cons.inj whole
          obtain ⟨before, innerOpening, innerClosing, innerAfter, leftSpells, rightSpells,
            inner⟩ := induction rfl
          refine ⟨opening ++ ':' :: (word ++ (closing ++ before)), innerOpening, innerClosing,
            innerAfter, here.spells leftSpells, rightSpells, ?_⟩
          have assoc : seen ++ (opening ++ ':' :: (word ++ (closing ++ before))) =
              seen ++ (opening ++ ':' :: (word ++ closing)) ++ before := by
            simp
          rwa [assoc]

/-! ## Reading the written text -/

theorem plain_of_all {text : List Char}
    (plain : (text.all fun c => !isQuotationMark c && c != ':') = true) :
    ∀ c, c ∈ text → isQuotationMark c = false ∧ c ≠ ':' := by
  intro c member
  have here := List.all_eq_true.mp plain c member
  simpa using here

/-- No marker has a quotation mark or a colon. -/
theorem marker_plain (style : MarkerStyle) (number : Nat) {c : Char}
    (member : c ∈ (style.marker number).toList) : isQuotationMark c = false ∧ c ≠ ':' := by
  rcases mem_marker member with rfl | rfl | digit
  · exact ⟨rfl, by decide⟩
  · exact ⟨rfl, by decide⟩
  · apply plain_of_part
    simp [isPlaceholderPart, Char.isAlphanum, digit]

theorem Reads.exact_written {text seen : List Char} {pieces : List Segment}
    (reads : Reads text seen pieces) {scope : Scope} {function : FunctionDecl} {bound : SqlText}
    (success : scope.bindPlaceholders function pieces = .ok bound) (style : MarkerStyle)
    (binding : Binding) :
    Exact .outside ((SqlText.written style binding bound).toList.map .char) := by
  induction reads generalizing bound binding with
  | nil =>
      cases success
      trivial
  | @text seen part others partExact settled _ induction =>
      obtain ⟨rest, restSuccess, rfl⟩ := Scope.bindPlaceholders_text success
      have restExact := induction restSuccess binding
      rw [SqlText.written_text, String.toList_append, String.toList_ofList, List.map_append]
      rcases settled with rfl | outside
      · cases restSuccess
        simpa using partExact
      · refine partExact.append ?_ ?_
        · rw [outside]
          exact nofun
        · rwa [outside]
  | @value seen opening name closing after isList others _ _ induction =>
      obtain ⟨slot, rest, _, restSuccess, rfl⟩ := Scope.bindPlaceholders_value success
      cases isList with
      | true =>
          simp only [if_true, List.cons_append, List.nil_append, SqlText.written_text,
            SqlText.written_slot, String.toList_append, List.map_append]
          refine Exact.plain_append ?_ (Exact.plain_append ?_ (Exact.plain_append ?_ ?_))
          · exact plain_of_all (by decide)
          · exact fun c => marker_plain _ _
          · exact plain_of_all (by decide)
          · exact induction restSuccess _
      | false =>
          simp only [Bool.false_eq_true, if_false, List.cons_append, List.nil_append,
            SqlText.written_slot, String.toList_append, List.map_append]
          refine Exact.plain_append ?_ ?_
          · exact fun c => marker_plain _ _
          · exact induction restSuccess _

theorem Exact.no_placeholder {text before name after : List Char}
    (textExact : Exact .outside (text.map .char)) : ¬ PlaceholderAt text before name after := by
  rintro ⟨rfl, outside, run⟩
  obtain ⟨first, rest, rfl, starts⟩ := run.begins
  rw [List.append_cons, List.map_append] at textExact
  have noStart := textExact.no_start_after_colon (complete_iff_after.mp outside) first (by simp)
  cases noStart.symm.trans starts

theorem placeholderNames_of_exact {text : String}
    (textExact : Exact .outside (text.toList.map .char)) :
    placeholderNames (segments text) = [] := by
  have none : tokenPlaces [] (scanPlaceholders none 0 text.toList) = [] := by
    apply List.eq_nil_iff_forall_not_mem.mpr
    rintro ⟨before, name⟩ member
    obtain ⟨after, found⟩ := tokenPlaces_scanPlaceholders.mp member
    exact textExact.no_placeholder found
  rw [segments, placeholderNames_segmentsAfter, List.drop_zero, ← map_tokenPlaces [], none]
  rfl

/-- The segments of a text lose nothing of it, and take nothing for a list that is none.
Written back they spell the text. Each value comes from a placeholder, the segments before
and after it spell what the text has before and after what it replaces, and it is a list
just where the placeholder is alone in the parentheses of an `IN` that is not itself the
name of a placeholder. Bound and written with markers of either style, they have no
placeholder. -/
theorem segments_spell_text (text : String) :
    Spells (segments text) text.toList ∧
    (∀ left name isList right, segments text = left ++ .value name isList :: right →
      ∃ before opening closing after, Spells left before ∧ Spells right after ∧
        ValueAt text.toList before opening name.toList closing after isList) ∧
    ∀ (scope : Scope) (function : FunctionDecl) (bound : SqlText),
      scope.bindPlaceholders function (segments text) = .ok bound →
      ∀ style binding,
        placeholderNames (segments (SqlText.written style binding bound)) = [] := by
  have reads := reads_segments text
  refine ⟨?_, ?_, ?_⟩
  · obtain ⟨rest, shape, spells⟩ := reads.spells
    rwa [shape]
  · intro left name isList right split
    rw [split] at reads
    exact reads.valueAt
  · intro scope function bound success style binding
    exact placeholderNames_of_exact (reads.exact_written success style binding)

example : segments "a in ( :x ) OR b IN(:y)IN (:z, 1)" =
    [.text "a ", .value "x" true, .text " OR b ", .value "y" true, .text "IN (",
      .value "z" false, .text ", 1)"] := by
  decide

/-- In `:IN (:ids)` the second placeholder is alone in the parentheses of `IN`, but its
value is not a list: that `IN` is the name of the first one. -/
theorem segments_named_in :
    segments ":IN (:ids)" =
        [.value "IN" false, .text " (", .value "ids" false, .text ")"] ∧
      PlaceholderAt ":IN (:ids)".toList ":IN (".toList "ids".toList ")".toList ∧
      AloneInList [':'] ":IN (".toList ")".toList := by
  refine ⟨by decide, ⟨by decide, complete_iff_after.mpr (by decide), ?_⟩, ?_⟩
  · refine ⟨⟨'i', ['d', 's'], by decide, by decide⟩, List.all_eq_true.mp (by decide), ?_⟩
    intro next found
    obtain rfl : ')' = next := by simpa using found
    decide
  · refine ⟨⟨['I', 'N', ' ', '('], by decide, ?_⟩, ⟨[')'], [], by decide, ?_⟩, ?_⟩
    · exact @ListOpening.intro 'I' 'N' [' '] [] (by decide) (by decide)
        (List.all_eq_true.mp (by decide)) nofun
    · exact @ListClosing.intro [] nofun
    · intro last found
      obtain rfl : ':' = last := by simpa using found
      exact ⟨by decide, by decide⟩

end RowPlan
