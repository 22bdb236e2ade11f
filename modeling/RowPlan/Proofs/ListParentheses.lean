import Mathlib.Data.List.Basic
import RowPlan.Proofs.PlaceholderPlaces

/-!
# Parentheses of lists

What may stand around a placeholder alone in the parentheses of `IN`: the word with
the opening parenthesis, and the closing one. The gathering of segments looks for the
first from its end and for the second among tokens.
-/

namespace RowPlan

/-- `IN` in any letter case, and the opening parenthesis, with blanks after both. -/
inductive ListOpening : List Char → Prop where
  | intro {i n : Char} {gap inner : List Char} :
      i.toUpper = 'I' → n.toUpper = 'N' →
      (∀ c, c ∈ gap → isBlank c = true) → (∀ c, c ∈ inner → isBlank c = true) →
      ListOpening (i :: n :: (gap ++ '(' :: inner))

/-- The closing parenthesis, with blanks before it. -/
inductive ListClosing : List Char → Prop where
  | intro {gap : List Char} : (∀ c, c ∈ gap → isBlank c = true) → ListClosing (gap ++ [')'])

/-- A word may begin after the text. -/
def EndsWord (text : List Char) : Prop :=
  ∀ c, text.getLast? = some c → isLetterOrNumber c = false ∧ c ≠ '_'

/-- What stands between `before` and `after` is alone in the parentheses of an `IN`
that comes after `kept`. -/
structure AloneInList (kept before after : List Char) : Prop where
  opening : ∃ opening, before = kept ++ opening ∧ ListOpening opening
  closing : ∃ closing rest, after = closing ++ rest ∧ ListClosing closing
  word : EndsWord kept

/-! ## Characters -/

/-- Letters by their code points. -/
theorem isAlpha_iff {c : Char} :
    c.isAlpha = true ↔
      (65 ≤ c.toNat ∧ c.toNat ≤ 90) ∨ (97 ≤ c.toNat ∧ c.toNat ≤ 122) := by
  change (decide (c.val ≥ 'A'.val ∧ c.val ≤ 'Z'.val) ||
      (decide (c.val ≥ 'a'.val) && decide (c.val ≤ 'z'.val))) = true ↔ _
  simp only [Bool.or_eq_true, Bool.and_eq_true, decide_eq_true_eq, UInt32.le_iff_toNat_le,
    ge_iff_le, Char.toNat_val]
  exact Iff.rfl

/-- Digits by their code points. -/
theorem isDigit_iff {c : Char} : c.isDigit = true ↔ 48 ≤ c.toNat ∧ c.toNat ≤ 57 := by
  change (decide (c.val ≥ '0'.val) && decide (c.val ≤ '9'.val)) = true ↔ _
  simp only [Bool.and_eq_true, decide_eq_true_eq, UInt32.le_iff_toNat_le, ge_iff_le,
    Char.toNat_val]
  exact Iff.rfl

theorem isAlphanum_iff {c : Char} :
    c.isAlphanum = true ↔
      (65 ≤ c.toNat ∧ c.toNat ≤ 90) ∨ (97 ≤ c.toNat ∧ c.toNat ≤ 122) ∨
        (48 ≤ c.toNat ∧ c.toNat ≤ 57) := by
  change (c.isAlpha || c.isDigit) = true ↔ _
  rw [Bool.or_eq_true, isAlpha_iff, isDigit_iff, or_assoc]

theorem not_part_of_blank {c : Char} (blank : isBlank c = true) :
    isPlaceholderPart c = false := by
  apply Bool.eq_false_iff.mpr
  intro part
  simp only [isPlaceholderPart, Bool.or_eq_true, isAlphanum_iff, beq_iff_eq] at part
  simp [isBlank, blankTable, CharClass.contains] at blank
  simp only [← Char.toNat_inj] at part blank
  simp at part blank
  omega

theorem visible_of_part {c : Char} (part : isPlaceholderPart c = true) :
    isBlank c = false := by
  cases blank : isBlank c with
  | false => rfl
  | true => exact (Bool.false_ne_true ((not_part_of_blank blank).symm.trans part)).elim

theorem ne_of_blank {c : Char} (blank : isBlank c = true) (other : Char)
    (visible : isBlank other = false) : c ≠ other := by
  rintro rfl
  simp [blank] at visible

theorem plain_of_blank {c : Char} (blank : isBlank c = true) :
    isQuotationMark c = false ∧ c ≠ ':' := by
  have apostrophe := ne_of_blank blank '\'' (by decide)
  have quotation := ne_of_blank blank '"' (by decide)
  exact ⟨by simp [isQuotationMark, apostrophe, quotation], ne_of_blank blank ':' (by decide)⟩

/-- A letter in either case may begin a name. -/
theorem start_of_toUpper {c upper : Char} (same : c.toUpper = upper)
    (isUpper : upper.isUpper = true) : isPlaceholderStart c = true := by
  change ((c.isUpper || c.isLower) || c == '_') = true
  rw [Bool.or_eq_true, Bool.or_eq_true]
  unfold Char.toUpper at same
  split at same
  case isTrue lower =>
    have isLower : c.isLower = true :=
      Bool.and_eq_true_iff.mpr ⟨decide_eq_true lower.1, decide_eq_true lower.2⟩
    exact .inl (.inr isLower)
  case isFalse => exact .inl (.inl (same ▸ isUpper))

/-- A character of a name goes on with a word. -/
theorem letterOrNumber_of_part {c : Char} (part : isPlaceholderPart c = true)
    (other : c ≠ '_') : isLetterOrNumber c = true := by
  have alphanumeric : c.isAlphanum = true := by
    simpa [isPlaceholderPart, other] using part
  have ascii : c.toNat < 128 := by
    have codes := isAlphanum_iff.mp alphanumeric
    omega
  rw [isLetterOrNumber, if_pos ascii]
  exact alphanumeric

theorem EndsWord.last_not_part {text : List Char} (word : EndsWord text) {c : Char}
    (last : text.getLast? = some c) : isPlaceholderPart c = false := by
  obtain ⟨noLetter, noScore⟩ := word c last
  cases part : isPlaceholderPart c with
  | false => rfl
  | true => exact (Bool.false_ne_true (noLetter.symm.trans
      (letterOrNumber_of_part part noScore))).elim

/-! ## Words -/

/-- A word of characters of a name comes first. Behind it there is no such character, and
no closing parenthesis. -/
inductive BeginsWord : List Char → Prop where
  | intro {first : Char} {rest gap : List Char} :
      isPlaceholderStart first = true → (∀ c, c ∈ rest → isPlaceholderPart c = true) →
      (∀ c, c ∈ gap → isPlaceholderPart c = false ∧ c ≠ ')') →
      BeginsWord (first :: (rest ++ gap))

theorem behind_of_blank {c : Char} (blank : isBlank c = true) :
    isPlaceholderPart c = false ∧ c ≠ ')' :=
  ⟨not_part_of_blank blank, ne_of_blank blank ')' (by decide)⟩

namespace BeginsWord

variable {text left right : List Char}

theorem starts (begins : BeginsWord text) :
    ∃ first rest, text = first :: rest ∧ isPlaceholderStart first = true := by
  cases begins with
  | intro start _ _ => exact ⟨_, _, rfl, start⟩

theorem closing_not_mem (begins : BeginsWord text) : ')' ∉ text := by
  cases begins with
  | intro start parts behind =>
      intro member
      simp only [List.mem_cons, List.mem_append] at member
      rcases member with rfl | inWord | inGap
      · cases start
      · cases parts ')' inWord
      · exact (behind ')' inGap).2 rfl

/-- Where a beginning of the text ends with a character of a name, it ends within the word
or after it. -/
theorem cut (begins : BeginsWord text) (shape : text = left ++ right) {last : Char}
    (ends : left.getLast? = some last) (part : isPlaceholderPart last = true) :
    (∃ n rest, right = n :: rest ∧ isPlaceholderPart n = true) ∨
      ∀ c, c ∈ left → isPlaceholderPart c = true := by
  cases begins with
  | @intro first rest gap start parts behind =>
      have wordParts : ∀ c, c ∈ first :: rest → isPlaceholderPart c = true :=
        List.forall_mem_cons.mpr ⟨part_of_start start, parts⟩
      rw [← List.cons_append] at shape
      rcases List.append_eq_append_iff.mp shape with ⟨more, rfl, rfl⟩ |
        ⟨more, wordShape, rfl⟩
      · cases more with
        | nil => exact .inr (by simpa using wordParts)
        | cons c more =>
            -- The last character is behind the word, where there is none of a name.
            rw [List.getLast?_append_of_ne_nil _ (List.cons_ne_nil c more)] at ends
            have inGap := List.mem_of_getLast? ends
            have noPart := (behind last (List.mem_append_left _ inGap)).1
            cases noPart.symm.trans part
      · cases more with
        | nil => exact .inr (by simpa [wordShape] using wordParts)
        | cons n others =>
            exact .inl ⟨n, others ++ gap, rfl, wordParts n (by simp [wordShape])⟩

end BeginsWord

/-! ## The opening -/

namespace ListOpening

variable {opening : List Char}

/-- An opening consists of characters of a name, blanks and a parenthesis. -/
theorem characters (isOpening : ListOpening opening) {c : Char} (member : c ∈ opening) :
    isPlaceholderPart c = true ∨ isBlank c = true ∨ c = '(' := by
  cases isOpening with
  | @intro i n gap inner isI isN gapBlank innerBlank =>
      simp only [List.mem_cons, List.mem_append] at member
      rcases member with rfl | rfl | inGap | rfl | inInner
      · exact .inl (part_of_start (start_of_toUpper isI rfl))
      · exact .inl (part_of_start (start_of_toUpper isN rfl))
      · exact .inr (.inl (gapBlank c inGap))
      · exact .inr (.inr rfl)
      · exact .inr (.inl (innerBlank c inInner))

theorem plain (isOpening : ListOpening opening) {c : Char} (member : c ∈ opening) :
    isQuotationMark c = false ∧ c ≠ ':' := by
  rcases isOpening.characters member with part | blank | rfl
  · exact plain_of_part part
  · exact plain_of_blank blank
  · exact ⟨rfl, by decide⟩

theorem beginsWord (isOpening : ListOpening opening) : BeginsWord opening := by
  cases isOpening with
  | @intro i n gap inner isI isN gapBlank innerBlank =>
      refine @BeginsWord.intro i [n] (gap ++ '(' :: inner) (start_of_toUpper isI rfl) ?_ ?_
      · exact List.forall_mem_singleton.mpr (part_of_start (start_of_toUpper isN rfl))
      · intro c member
        simp only [List.mem_append, List.mem_cons] at member
        rcases member with inGap | rfl | inInner
        · exact behind_of_blank (gapBlank c inGap)
        · exact ⟨rfl, by decide⟩
        · exact behind_of_blank (innerBlank c inInner)

end ListOpening

theorem dropWhile_blanks {blanks rest : List Char} {c : Char}
    (blank : ∀ c, c ∈ blanks → isBlank c = true) (visible : isBlank c = false) :
    (blanks ++ c :: rest).dropWhile isBlank = c :: rest := by
  rw [List.dropWhile_append_of_pos blank]
  exact List.dropWhile_cons_of_neg (by simp [visible])

theorem endsWord_reverse_iff {kept : List Char} :
    EndsWord kept.reverse ↔
      ∀ c, kept.head? = some c → isLetterOrNumber c = false ∧ c ≠ '_' := by
  rw [EndsWord, List.getLast?_reverse]

theorem blanks_before {text rest : List Char} {c : Char}
    (shape : text.dropWhile isBlank = c :: rest) :
    ∃ blanks, text = blanks ++ c :: rest ∧ ∀ d, d ∈ blanks → isBlank d = true := by
  refine ⟨text.takeWhile isBlank, ?_, ?_⟩
  · rw [← shape, List.takeWhile_append_dropWhile]
  · exact List.all_eq_true.mp List.all_takeWhile

/-- The opening of a list is looked for from the end of the text. -/
theorem beforeListOpening_eq_some_iff {before kept : List Char} :
    beforeListOpening before = some kept ↔
      ∃ opening, before.reverse = kept.reverse ++ opening ∧ ListOpening opening ∧
        EndsWord kept.reverse := by
  constructor
  · intro success
    unfold beforeListOpening at success
    split at success
    case h_2 => cases success
    case h_1 beforeParenthesis parenthesis =>
      obtain ⟨inner, rfl, innerBlank⟩ := blanks_before parenthesis
      split at success
      case h_2 => cases success
      case h_1 n i beforeWord word =>
        obtain ⟨gap, rfl, gapBlank⟩ := blanks_before word
        split at success
        case isFalse => cases success
        case isTrue isIn =>
          have found : beforeWord = kept ∧ EndsWord kept.reverse := by
            rw [endsWord_reverse_iff]
            split at success
            · split at success
              · cases success
              case isFalse c rest noWord =>
                cases success
                simpa using noWord
            · cases success
              exact ⟨rfl, nofun⟩
          obtain ⟨rfl, ends⟩ := found
          refine ⟨i :: n :: (gap.reverse ++ '(' :: inner.reverse), by simp, ?_, ends⟩
          exact .intro isIn.2 isIn.1 (by simpa using gapBlank) (by simpa using innerBlank)
  · rintro ⟨opening, shape, isOpening, ends⟩
    cases isOpening with
    | @intro i n gap inner isI isN gapBlank innerBlank =>
        have reversed : before =
            inner.reverse ++ '(' :: (gap.reverse ++ n :: (i :: kept)) := by
          rw [← List.reverse_inj, shape]
          simp
        have parenthesis : before.dropWhile isBlank =
            '(' :: (gap.reverse ++ n :: (i :: kept)) := by
          rw [reversed]
          exact dropWhile_blanks (by simpa using innerBlank) rfl
        have visible : isBlank n = false :=
          visible_of_part (part_of_start (start_of_toUpper isN rfl))
        have word : (gap.reverse ++ n :: (i :: kept)).dropWhile isBlank = n :: i :: kept :=
          dropWhile_blanks (by simpa using gapBlank) visible
        rw [endsWord_reverse_iff] at ends
        simp only [beforeListOpening, parenthesis, word, isN, isI, and_self, if_true]
        cases kept with
        | nil => rfl
        | cons c rest => simpa using ends c rfl

/-! ## The closing -/

theorem ListClosing.blank {closing : List Char} (isClosing : ListClosing closing) {c : Char}
    (isBlankChar : isBlank c = true) : ListClosing (c :: closing) := by
  cases isClosing with
  | @intro gap gapBlank =>
      exact @ListClosing.intro (c :: gap) (List.forall_mem_cons.mpr ⟨isBlankChar, gapBlank⟩)

theorem ListClosing.plain {closing : List Char} (isClosing : ListClosing closing) {c : Char}
    (member : c ∈ closing) : isQuotationMark c = false ∧ c ≠ ':' := by
  cases isClosing with
  | intro gapBlank =>
      rcases List.mem_append.mp member with inGap | parenthesis
      · exact plain_of_blank (gapBlank c inGap)
      · obtain rfl := List.mem_singleton.mp parenthesis
        exact ⟨rfl, by decide⟩

/-- The tokens that a closing takes are its characters. -/
theorem closing_of_listClosingLength {tokens : List SqlToken} {length : Nat}
    (success : listClosingLength tokens = some length) :
    ∃ closing, ListClosing closing ∧ tokens = closing.map .char ++ tokens.drop length := by
  induction tokens generalizing length with
  | nil => cases success
  | cons token rest induction =>
      cases token with
      | name name => cases success
      | char c =>
          rw [listClosingLength] at success
          split at success
          case isTrue blank =>
            obtain ⟨shorter, found, rfl⟩ := Option.map_eq_some_iff.mp success
            obtain ⟨closing, isClosing, shape⟩ := induction found
            refine ⟨c :: closing, isClosing.blank blank, ?_⟩
            exact congrArg (SqlToken.char c :: ·) shape
          case isFalse visible =>
            split at success
            case isTrue parenthesis =>
              cases success
              refine ⟨[')'], @ListClosing.intro [] (List.forall_mem_nil _), ?_⟩
              simp [parenthesis]
            case isFalse => cases success

theorem tokensText_of_closing {tokens : List SqlToken} {closing : List Char} {length : Nat}
    (tail : tokens = closing.map .char ++ tokens.drop length) :
    tokensText tokens = closing ++ tokensText (tokens.drop length) := by
  calc tokensText tokens
      = tokensText (closing.map .char ++ tokens.drop length) := congrArg tokensText tail
    _ = closing ++ tokensText (tokens.drop length) := by
        rw [tokensText_append, tokensText_chars]

theorem listClosingLength_of_closing {tokens : List SqlToken} {closing rest : List Char}
    (shape : tokensText tokens = closing ++ rest) (isClosing : ListClosing closing) :
    ∃ length, listClosingLength tokens = some length := by
  cases isClosing with
  | @intro gap gapBlank =>
      induction gap generalizing tokens with
      | nil =>
          match tokens, shape with
          | .char c :: others, here =>
              obtain ⟨rfl, _⟩ : c = ')' ∧ _ := by simpa using here
              exact ⟨1, rfl⟩
      | cons blank gap induction =>
          obtain ⟨isBlankChar, othersBlank⟩ := List.forall_mem_cons.mp gapBlank
          match tokens, shape with
          | .char c :: others, here =>
              obtain ⟨same, later⟩ := List.cons.inj here
              obtain ⟨length, found⟩ := induction othersBlank later
              exact ⟨length + 1, by simp [listClosingLength, same, isBlankChar, found]⟩
          | .name name :: others, here =>
              obtain ⟨colon, _⟩ := List.cons.inj here
              rw [← colon] at isBlankChar
              cases isBlankChar

end RowPlan
