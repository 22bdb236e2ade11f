import RowPlan.Method.Condition
import RowPlan.Proofs.MarkedText
import RowPlan.Proofs.Success

/-!
# Given text with placeholders

What becomes of a given text: its placeholders become slots under their names, in
their order, and the rest of it stays. A name ends where no digit follows, so that no
slot is followed by one.
-/

namespace RowPlan

/-! ## Tokens -/

/-- No digit comes first among tokens. -/
def TokensClear (tokens : List SqlToken) : Prop :=
  ∀ c, tokens.head? = some (.char c) → c.isDigit = false

/-- No name is followed by a digit. -/
def NamesEnd : List SqlToken → Prop
  | [] => True
  | .char _ :: rest => NamesEnd rest
  | .name _ :: rest => TokensClear rest ∧ NamesEnd rest

theorem NamesEnd.tail {token : SqlToken} {rest : List SqlToken}
    (ends : NamesEnd (token :: rest)) : NamesEnd rest := by
  cases token with
  | char c => exact ends
  | name name => exact ends.2

theorem scanPlaceholders_skip (quote : Option Char) (skipped : Nat) (text : List Char) :
    scanPlaceholders quote skipped text = scanPlaceholders quote 0 (text.drop skipped) := by
  induction text generalizing skipped with
  | nil => simp [scanPlaceholders]
  | cons c rest induction =>
      cases skipped with
      | zero => rfl
      | succ skipped =>
          simp only [scanPlaceholders, List.drop_succ_cons]
          exact induction skipped

theorem head?_scanPlaceholders {text : List Char} {c : Char}
    (first : (scanPlaceholders none 0 text).head? = some (.char c)) :
    text.head? = some c := by
  cases text with
  | nil => simp [scanPlaceholders] at first
  | cons head rest =>
      rw [scanPlaceholders.eq_def] at first
      dsimp only at first
      split at first
      · simpa using first
      · split at first
        case isTrue colon =>
          subst colon
          split at first
          · simpa using first
          · split at first
            · simp at first
            · simpa using first
          · simpa using first
        case isFalse => simpa using first

theorem drop_takeWhile_length (p : Char → Bool) (text : List Char) :
    text.drop (text.takeWhile p).length = text.dropWhile p := by
  calc text.drop (text.takeWhile p).length
      = (text.takeWhile p ++ text.dropWhile p).drop (text.takeWhile p).length := by
        rw [List.takeWhile_append_dropWhile]
    _ = text.dropWhile p := List.drop_left

theorem tokensClear_after_name (text : List Char) :
    TokensClear (scanPlaceholders none (text.takeWhile isPlaceholderPart).length text) := by
  intro c first
  rw [scanPlaceholders_skip, drop_takeWhile_length] at first
  have outside := List.head?_dropWhile_not isPlaceholderPart text
  rw [head?_scanPlaceholders first] at outside
  simp only [isPlaceholderPart, Char.isAlphanum, Bool.or_eq_false_iff] at outside
  exact outside.1.2

theorem namesEnd_scanPlaceholders (quote : Option Char) (skipped : Nat) (text : List Char) :
    NamesEnd (scanPlaceholders quote skipped text) := by
  fun_induction scanPlaceholders quote skipped text with
  | case1 => trivial
  | case2 quote c rest skipped induction => exact induction
  | case3 c rest mark induction => exact induction
  | case4 c rest quoted induction => exact induction
  | case5 rest noQuote induction => exact induction
  | case6 next rest noCast begins noQuote name induction =>
      exact ⟨tokensClear_after_name (next :: rest), induction⟩
  | case7 next rest noCast other noQuote induction => exact induction
  | case8 => trivial
  | case9 c rest noQuote noColon induction => exact induction

private theorem mem_cons_of_token {c first : Char} {tokens : List SqlToken}
    {rest : List Char} (member : SqlToken.char c ∈ .char first :: tokens)
    (later : .char c ∈ tokens → c ∈ rest) : c ∈ first :: rest := by
  rcases List.mem_cons.mp member with here | more
  · cases here
    exact List.mem_cons_self
  · exact List.mem_cons_of_mem _ (later more)

theorem mem_of_mem_scanPlaceholders {c : Char} (quote : Option Char) (skipped : Nat)
    (text : List Char) (member : .char c ∈ scanPlaceholders quote skipped text) :
    c ∈ text := by
  fun_induction scanPlaceholders quote skipped text with
  | case1 => cases member
  | case2 quote first rest skipped induction =>
      exact List.mem_cons_of_mem _ (induction member)
  | case3 first rest mark induction => exact mem_cons_of_token member induction
  | case4 first rest quoted induction => exact mem_cons_of_token member induction
  | case5 rest noQuote induction =>
      refine mem_cons_of_token member fun more => ?_
      rcases List.mem_cons.mp more with here | later
      · cases here
        exact List.mem_cons_self
      · exact induction later
  | case6 next rest noCast begins noQuote name induction =>
      rcases List.mem_cons.mp member with here | later
      · cases here
      · exact List.mem_cons_of_mem _ (induction later)
  | case7 next rest noCast other noQuote induction =>
      exact mem_cons_of_token member induction
  | case8 => simpa using member
  | case9 first rest noQuote noColon induction => exact mem_cons_of_token member induction

/-! ## Segments -/

/-- The segments do not begin with a digit. -/
def SegmentsClear : List Segment → Prop
  | .text part :: rest =>
      StopsDigits part.toList ∧ (part.toList = [] → SegmentsClear rest)
  | _ => True

/-- No single value is followed by a digit; what replaces a list ends with a parenthesis. -/
def SegmentsSeparated : List Segment → Prop
  | [] => True
  | .text _ :: rest => SegmentsSeparated rest
  | .value _ isList :: rest =>
      (isList = false → SegmentsClear rest) ∧ SegmentsSeparated rest

/-- Text that has been read so far does not begin with a digit. -/
def ReadClear (before : List Char) : Prop :=
  ∀ c, before.getLast? = some c → c.isDigit = false

theorem segmentsClear_textSegment {before : List Char} {rest : List Segment}
    (clear : ReadClear before) (restClear : SegmentsClear rest) :
    SegmentsClear (textSegment before ++ rest) := by
  cases reversed : before.reverse with
  | nil =>
      obtain rfl := List.reverse_eq_nil_iff.mp reversed
      exact restClear
  | cons c others =>
      have last : before.getLast? = some c := by
        rw [List.getLast?_eq_head?_reverse, reversed]
        rfl
      have read : before.isEmpty = false := by
        cases before with
        | nil => cases last
        | cons => rfl
      simp [textSegment, read, SegmentsClear, StopsDigits, reversed, clear c last]

theorem readClear_nil : ReadClear [] := by
  intro c first
  cases first

theorem ReadClear.suffix {before kept : List Char} (clear : ReadClear before)
    (suffix : kept <:+ before) : ReadClear kept := by
  intro c last
  obtain ⟨dropped, rfl⟩ := suffix
  exact clear c (by simp [List.getLast?_append, last])

/-- What stays before a list is the beginning of the text before it. -/
theorem suffix_of_beforeListOpening {before kept : List Char}
    (opening : beforeListOpening before = some kept) : kept <:+ before := by
  unfold beforeListOpening at opening
  split at opening
  case h_1 beforeParenthesis parenthesis =>
    have afterIn : beforeParenthesis <:+ before :=
      (List.suffix_cons _ _).trans (parenthesis ▸ List.dropWhile_suffix isBlank)
    split at opening
    case h_1 n i beforeIn word =>
      have beforeWord : beforeIn <:+ beforeParenthesis :=
        ((List.suffix_cons _ _).trans (List.suffix_cons _ _)).trans
          (word ▸ List.dropWhile_suffix isBlank)
      split at opening
      · split at opening
        · split at opening
          · cases opening
          · cases opening
            exact beforeWord.trans afterIn
        · cases opening
          exact beforeWord.trans afterIn
      · cases opening
    case h_2 => cases opening
  case h_2 => cases opening

theorem segmentsClear_segmentsAfter {before : List Char} {tokens : List SqlToken}
    (clear : ReadClear before) (tokensClear : before = [] → TokensClear tokens) :
    SegmentsClear (segmentsAfter before 0 tokens) := by
  induction tokens generalizing before with
  | nil =>
      simpa [segmentsAfter] using
        segmentsClear_textSegment clear (show SegmentsClear [] from trivial)
  | cons token rest induction =>
      cases token with
      | char c =>
          rw [segmentsAfter]
          refine induction ?_ (fun empty => nomatch empty)
          intro last found
          cases before with
          | nil =>
              obtain rfl : c = last := by simpa using found
              exact tokensClear rfl c rfl
          | cons next before => exact clear last (by simpa using found)
      | name name =>
          rw [segmentsAfter]
          split
          case h_1 kept length opening closing =>
            exact segmentsClear_textSegment
              (clear.suffix (suffix_of_beforeListOpening opening)) trivial
          case h_2 => exact segmentsClear_textSegment clear trivial

theorem segmentsSeparated_textSegment {before : List Char} {rest : List Segment}
    (separated : SegmentsSeparated rest) :
    SegmentsSeparated (textSegment before ++ rest) := by
  unfold textSegment
  split
  · exact separated
  · exact separated

theorem segmentsSeparated_segmentsAfter {tokens : List SqlToken} (ends : NamesEnd tokens)
    (before : List Char) (skipped : Nat) :
    SegmentsSeparated (segmentsAfter before skipped tokens) := by
  induction tokens generalizing before skipped with
  | nil =>
      simpa [segmentsAfter] using
        segmentsSeparated_textSegment (show SegmentsSeparated [] from trivial)
  | cons token rest induction =>
      cases skipped with
      | succ skipped =>
          rw [segmentsAfter]
          exact induction ends.tail before skipped
      | zero =>
          cases token with
          | char c =>
              rw [segmentsAfter]
              exact induction ends (c :: before) 0
          | name name =>
              rw [segmentsAfter]
              split
              case h_1 kept length opening closing =>
                refine segmentsSeparated_textSegment ⟨?_, induction ends.2 [] length⟩
                intro single
                cases single
              case h_2 =>
                refine segmentsSeparated_textSegment ⟨fun _ => ?_, induction ends.2 [] 0⟩
                exact segmentsClear_segmentsAfter readClear_nil fun _ => ends.1

theorem mem_of_mem_segmentsAfter {c : Char} {part : String} {tokens : List SqlToken}
    {before : List Char} {skipped : Nat}
    (member : .text part ∈ segmentsAfter before skipped tokens) (inPart : c ∈ part.toList) :
    c ∈ before ∨ .char c ∈ tokens := by
  have ofRead : ∀ {read : List Char}, .text part ∈ textSegment read → c ∈ read := by
    intro read found
    unfold textSegment at found
    split at found
    · cases found
    · obtain rfl := Segment.text.inj (List.mem_singleton.mp found)
      simpa using inPart
  induction tokens generalizing before skipped with
  | nil => exact .inl (ofRead member)
  | cons token rest induction =>
      cases skipped with
      | succ skipped =>
          rw [segmentsAfter] at member
          exact (induction member).imp_right (List.mem_cons_of_mem _)
      | zero =>
          cases token with
          | char first =>
              rw [segmentsAfter] at member
              rcases induction member with read | later
              · rcases List.mem_cons.mp read with rfl | earlier
                · exact .inr List.mem_cons_self
                · exact .inl earlier
              · exact .inr (List.mem_cons_of_mem _ later)
          | name name =>
              rw [segmentsAfter] at member
              split at member
              case h_1 kept length opening closing =>
                rcases List.mem_append.mp member with read | later
                · exact .inl ((suffix_of_beforeListOpening opening).subset (ofRead read))
                · rcases List.mem_cons.mp later with value | later
                  · cases value
                  · exact .inr (List.mem_cons_of_mem _
                      ((induction later).resolve_left List.not_mem_nil))
              case h_2 =>
                rcases List.mem_append.mp member with read | later
                · exact .inl (ofRead read)
                · rcases List.mem_cons.mp later with value | later
                  · cases value
                  · exact .inr (List.mem_cons_of_mem _
                      ((induction later).resolve_left List.not_mem_nil))

theorem mem_of_mem_segments {c : Char} {text part : String}
    (member : .text part ∈ segments text) (inPart : c ∈ part.toList) : c ∈ text.toList := by
  rcases mem_of_mem_segmentsAfter member inPart with read | token
  · cases read
  · exact mem_of_mem_scanPlaceholders none 0 text.toList token

theorem segmentsSeparated_segments (text : String) : SegmentsSeparated (segments text) :=
  segmentsSeparated_segmentsAfter (namesEnd_scanPlaceholders none 0 text.toList) [] 0

/-! ## Slots in place of placeholders -/

/-- The placeholders of a text, in their order: the name and whether it is a list. -/
def placeholders (pieces : List Segment) : List (String × Bool) :=
  pieces.filterMap fun
    | .value name isList => some (name, isList)
    | .text _ => none

namespace Scope

variable {scope : Scope} {function : FunctionDecl} {pieces : List Segment}
  {bound : SqlText}

theorem path_of_placeholderSlot {name : String} {isList : Bool} {slot : BindSlot}
    (found : scope.placeholderSlot function name isList = some slot) :
    slot.path = [name] := by
  obtain ⟨parameter, named, rfl⟩ := Option.map_eq_some_iff.mp found
  have same := List.find?_some named
  simpa using same

theorem bindPlaceholders_value {name : String} {isList : Bool} {rest : List Segment}
    (success : scope.bindPlaceholders function (.value name isList :: rest) = .ok bound) :
    ∃ slot others, scope.placeholderSlot function name isList = some slot ∧
      scope.bindPlaceholders function rest = .ok others ∧
      bound =
        (if isList then [.text "= ANY(", .slot (some name) slot, .text ")"]
          else [.slot (some name) slot]) ++ others := by
  rw [bindPlaceholders] at success
  split at success
  case h_1 => cases success
  case h_2 slot found =>
    obtain ⟨others, othersSuccess, equality⟩ := bind_eq_ok_iff.mp success
    cases equality
    exact ⟨slot, others, found, othersSuccess, rfl⟩

theorem bindPlaceholders_text {part : String} {rest : List Segment}
    (success : scope.bindPlaceholders function (.text part :: rest) = .ok bound) :
    ∃ others, scope.bindPlaceholders function rest = .ok others ∧
      bound = .text part :: others := by
  rw [bindPlaceholders] at success
  obtain ⟨others, othersSuccess, equality⟩ := bind_eq_ok_iff.mp success
  cases equality
  exact ⟨others, othersSuccess, rfl⟩

/-- Functions of one name whose placeholders mean the same slots bind them alike. -/
theorem bindPlaceholders_congr {other : FunctionDecl}
    (slots : scope.placeholderSlot other = scope.placeholderSlot function)
    (name : other.name = function.name) (pieces : List Segment) :
    scope.bindPlaceholders other pieces = scope.bindPlaceholders function pieces := by
  induction pieces with
  | nil => rfl
  | cons piece rest induction =>
      cases piece with
      | text part => rw [bindPlaceholders, bindPlaceholders, induction]
      | value placeholder isList =>
          rw [bindPlaceholders, bindPlaceholders, slots, name, induction]

theorem startsClear_of_bindPlaceholders
    (success : scope.bindPlaceholders function pieces = .ok bound)
    (clear : SegmentsClear pieces) : bound.StartsClear := by
  induction pieces generalizing bound with
  | nil =>
      cases success
      trivial
  | cons piece rest induction =>
      cases piece with
      | value name isList =>
          obtain ⟨slot, others, _, _, rfl⟩ := bindPlaceholders_value success
          cases isList with
          | true =>
              refine ⟨?_, fun empty => by simp at empty⟩
              intro c first
              obtain rfl : '=' = c := by simpa using first
              rfl
          | false => trivial
      | text part =>
          obtain ⟨others, othersSuccess, rfl⟩ := bindPlaceholders_text success
          exact ⟨clear.1, fun empty => induction othersSuccess (clear.2 empty)⟩

theorem separated_of_bindPlaceholders
    (success : scope.bindPlaceholders function pieces = .ok bound)
    (separated : SegmentsSeparated pieces) : bound.Separated := by
  induction pieces generalizing bound with
  | nil =>
      cases success
      trivial
  | cons piece rest induction =>
      cases piece with
      | text part =>
          obtain ⟨others, othersSuccess, rfl⟩ := bindPlaceholders_text success
          have othersSeparated : others.Separated := induction othersSuccess separated
          exact othersSeparated
      | value name isList =>
          obtain ⟨slot, others, _, othersSuccess, rfl⟩ := bindPlaceholders_value success
          have othersSeparated := induction othersSuccess separated.2
          cases isList with
          | true =>
              refine ⟨⟨?_, fun empty => by simp at empty⟩, othersSeparated⟩
              intro c first
              obtain rfl : ')' = c := by simpa using first
              rfl
          | false =>
              exact ⟨startsClear_of_bindPlaceholders othersSuccess (separated.1 rfl),
                othersSeparated⟩

theorem plain_of_bindPlaceholders {style : MarkerStyle}
    (success : scope.bindPlaceholders function pieces = .ok bound)
    (plain : ∀ part, .text part ∈ pieces → style.sign ∉ part.toList) :
    bound.Plain style.sign := by
  induction pieces generalizing bound with
  | nil =>
      cases success
      exact SqlText.plain_nil
  | cons piece rest induction =>
      obtain ⟨here, later⟩ : (∀ part, piece = .text part → style.sign ∉ part.toList) ∧
          ∀ part, .text part ∈ rest → style.sign ∉ part.toList :=
        ⟨fun part same => plain part (same ▸ List.mem_cons_self),
          fun part member => plain part (List.mem_cons_of_mem _ member)⟩
      cases piece with
      | text part =>
          obtain ⟨others, othersSuccess, rfl⟩ := bindPlaceholders_text success
          exact SqlText.plain_text_iff.mpr ⟨here part rfl, induction othersSuccess later⟩
      | value name isList =>
          obtain ⟨slot, others, _, othersSuccess, rfl⟩ := bindPlaceholders_value success
          have othersPlain := induction othersSuccess later
          have anyPlain : style.sign ∉ "= ANY(".toList := by
            cases style with
            | question => decide
            | numbered => decide
          have closingPlain : style.sign ∉ ")".toList := by
            cases style with
            | question => decide
            | numbered => decide
          cases isList with
          | true =>
              exact SqlText.plain_text_iff.mpr ⟨anyPlain,
                SqlText.plain_slot_iff.mpr (SqlText.plain_text_iff.mpr
                  ⟨closingPlain, othersPlain⟩)⟩
          | false => exact SqlText.plain_slot_iff.mpr othersPlain

/-- The keyed slots of a bound text are its placeholders. -/
theorem keyed_of_bindPlaceholders
    (success : scope.bindPlaceholders function pieces = .ok bound) :
    bound.keyed.map some =
      (placeholders pieces).map fun (name, isList) =>
        (scope.placeholderSlot function name isList).map (name, ·) := by
  induction pieces generalizing bound with
  | nil =>
      cases success
      rfl
  | cons piece rest induction =>
      cases piece with
      | text part =>
          obtain ⟨others, othersSuccess, rfl⟩ := bindPlaceholders_text success
          have othersKeyed := induction othersSuccess
          exact othersKeyed
      | value name isList =>
          obtain ⟨slot, others, found, othersSuccess, rfl⟩ := bindPlaceholders_value success
          have othersKeyed := induction othersSuccess
          cases isList with
          | true => simpa [SqlText.keyed, placeholders, found] using othersKeyed
          | false => simpa [SqlText.keyed, placeholders, found] using othersKeyed

theorem bindText_eq_ok {text : String} (success : scope.bindText function text = .ok bound) :
    scope.bindPlaceholders function (segments text) = .ok bound := by
  simp only [bindText, bind_eq_ok_iff] at success
  obtain ⟨found, foundSuccess, _, _, equality⟩ := success
  cases equality
  exact foundSuccess

end Scope

end RowPlan
