import Mathlib.Data.List.Induction
import RowPlan.Proofs.PlaceholderText

/-!
# Places of placeholders

`PlaceholderAt` says where a text has a placeholder, from the quoted runs and casts
before that place. The names that are found are those of all placeholders, in the
order of their places. What stands before a place is read character by character
here, so that the scanner can be compared with it at any of its steps.
-/

namespace RowPlan

/-- A character that begins a quoted run. -/
def isQuotationMark (c : Char) : Bool :=
  c == '\'' || c == '"'

/-- Text in which every quoted run and every cast is complete, as they are taken from
left to right. `pending` tells whether it ends with a colon that another colon would
make a cast. -/
inductive Complete : List Char → Bool → Prop where
  | nil : Complete [] false
  | char {before : List Char} {pending : Bool} {c : Char} :
      Complete before pending → isQuotationMark c = false → c ≠ ':' →
      Complete (before ++ [c]) false
  /-- A run goes on to the next mark like its first. -/
  | run {before body : List Char} {pending : Bool} {mark : Char} :
      Complete before pending → isQuotationMark mark = true → mark ∉ body →
      Complete (before ++ mark :: body ++ [mark]) false
  | colon {before : List Char} : Complete before false → Complete (before ++ [':']) true
  | cast {before : List Char} : Complete before true → Complete (before ++ [':']) false

/-- The characters of a name, and no character of it comes after them. -/
structure NameRun (name after : List Char) : Prop where
  begins : ∃ first rest, name = first :: rest ∧ isPlaceholderStart first = true
  parts : ∀ c, c ∈ name → isPlaceholderPart c = true
  ends : ∀ c, after.head? = some c → isPlaceholderPart c = false

/-- A text has a placeholder between what stands before its colon and after its name:
the colon is neither in a quoted run nor part of a cast. -/
structure PlaceholderAt (text before name after : List Char) : Prop where
  shape : text = before ++ ':' :: (name ++ after)
  outside : Complete before false
  run : NameRun name after

/-! ## Reading one character after the other -/

/-- What kind of place is between two characters. -/
inductive Place where
  | outside
  /-- Outside, after a colon that another colon would make a cast. -/
  | afterColon
  | within (mark : Char)
  deriving DecidableEq

namespace Place

/-- The place after one more character. -/
def next : Place → Char → Place
  | within mark, c => if c = mark then outside else within mark
  | afterColon, c => if isQuotationMark c then within c else outside
  | outside, c =>
      if isQuotationMark c then within c else if c = ':' then afterColon else outside

/-- The place after a text. -/
def after (place : Place) (text : List Char) : Place :=
  text.foldl next place

@[simp] theorem after_nil (place : Place) : place.after [] = place :=
  rfl

@[simp] theorem after_cons (place : Place) (c : Char) (rest : List Char) :
    place.after (c :: rest) = (place.next c).after rest :=
  rfl

@[simp] theorem after_append (place : Place) (left right : List Char) :
    place.after (left ++ right) = (place.after left).after right :=
  List.foldl_append

theorem after_body {mark : Char} {body : List Char} (absent : mark ∉ body) :
    (within mark).after body = within mark := by
  induction body with
  | nil => rfl
  | cons c rest induction =>
      simp only [List.mem_cons, not_or] at absent
      simp [next, Ne.symm absent.1, induction absent.2]

theorem next_mark {place : Place} {mark : Char} (outsideRuns : ∀ other, place ≠ within other)
    (isMark : isQuotationMark mark = true) : place.next mark = within mark := by
  cases place with
  | outside => simp [next, isMark]
  | afterColon => simp [next, isMark]
  | within other => exact (outsideRuns other rfl).elim

theorem next_plain {place : Place} {c : Char} (outsideRuns : ∀ other, place ≠ within other)
    (noMark : isQuotationMark c = false) (noColon : c ≠ ':') : place.next c = outside := by
  cases place with
  | outside => simp [next, noMark, noColon]
  | afterColon => simp [next, noMark]
  | within other => exact (outsideRuns other rfl).elim

theorem after_plain {text : List Char}
    (plain : ∀ c, c ∈ text → isQuotationMark c = false ∧ c ≠ ':') :
    outside.after text = outside := by
  induction text with
  | nil => rfl
  | cons c rest induction =>
      obtain ⟨⟨noMark, noColon⟩, restPlain⟩ := List.forall_mem_cons.mp plain
      rw [after_cons, next_plain (by exact nofun) noMark noColon]
      exact induction restPlain

theorem next_outside_colon : outside.next ':' = afterColon :=
  rfl

theorem next_afterColon_colon : afterColon.next ':' = outside :=
  rfl

/-- The place after a complete text. -/
def afterComplete (pending : Bool) : Place :=
  if pending then afterColon else outside

theorem afterComplete_outsideRuns (pending : Bool) (mark : Char) :
    afterComplete pending ≠ within mark := by
  cases pending with
  | false => exact nofun
  | true => exact nofun

/-- What a text is that ends at a place of a kind. -/
def Ends : Place → List Char → Prop
  | outside, text => Complete text false
  | afterColon, text => Complete text true
  | within mark, text =>
      ∃ before body pending, text = before ++ mark :: body ∧ Complete before pending ∧
        isQuotationMark mark = true ∧ mark ∉ body

theorem ends_next_of_complete {text : List Char} {pending : Bool}
    (complete : Complete text pending) {c : Char}
    (cast : c = ':' → (afterComplete pending).next c = afterComplete (!pending)) :
    ((afterComplete pending).next c).Ends (text ++ [c]) := by
  by_cases isMark : isQuotationMark c = true
  · rw [next_mark (afterComplete_outsideRuns pending) isMark]
    exact ⟨text, [], pending, rfl, complete, isMark, List.not_mem_nil⟩
  · have noMark := Bool.eq_false_iff.mpr isMark
    by_cases colon : c = ':'
    · rw [cast colon, colon]
      cases pending with
      | false => exact .colon complete
      | true => exact .cast complete
    · rw [next_plain (afterComplete_outsideRuns pending) noMark colon]
      exact .char complete noMark colon

theorem Ends.next {text : List Char} {place : Place} (ends : place.Ends text) (c : Char) :
    (place.next c).Ends (text ++ [c]) := by
  cases place with
  | outside =>
      exact ends_next_of_complete ends fun colon => colon ▸ next_outside_colon
  | afterColon =>
      exact ends_next_of_complete ends fun colon => colon ▸ next_afterColon_colon
  | within mark =>
      obtain ⟨before, body, pending, rfl, complete, isMark, absent⟩ := ends
      by_cases closes : c = mark
      · have step : (within mark).next c = outside := if_pos closes
        rw [step, closes]
        exact .run complete isMark absent
      · have step : (within mark).next c = within mark := if_neg closes
        have longer : mark ∉ body ++ [c] := by
          simp [absent, Ne.symm closes]
        rw [step]
        exact ⟨before, body ++ [c], pending, by simp, complete, isMark, longer⟩

theorem ends_after (text : List Char) : (outside.after text).Ends text := by
  induction text using List.reverseRecOn with
  | nil => exact .nil
  | append_singleton text c induction =>
      rw [after_append]
      exact induction.next c

end Place

theorem Complete.after_eq {text : List Char} {pending : Bool}
    (complete : Complete text pending) :
    Place.outside.after text = .afterComplete pending := by
  induction complete with
  | nil => rfl
  | @char before pending c _ noMark noColon induction =>
      rw [Place.after_append, induction]
      exact Place.next_plain (Place.afterComplete_outsideRuns pending) noMark noColon
  | @run before body pending mark _ isMark absent induction =>
      simp only [Place.after_append, Place.after_cons, Place.after_nil, induction]
      rw [Place.next_mark (Place.afterComplete_outsideRuns pending) isMark,
        Place.after_body absent]
      exact if_pos rfl
  | colon _ induction =>
      rw [Place.after_append, induction]
      rfl
  | cast _ induction =>
      rw [Place.after_append, induction]
      rfl

/-- Reading the characters tells where a placeholder may begin. -/
theorem complete_iff_after {text : List Char} :
    Complete text false ↔ Place.outside.after text = .outside := by
  constructor
  · exact Complete.after_eq
  · intro outside
    have ends := Place.ends_after text
    rwa [outside] at ends

/-! ## Tokens and the text they were read from -/

/-- The text of a token. -/
def SqlToken.text : SqlToken → List Char
  | char c => [c]
  | name characters => ':' :: characters

/-- The text of several tokens. -/
def tokensText (tokens : List SqlToken) : List Char :=
  tokens.flatMap SqlToken.text

@[simp] theorem tokensText_nil : tokensText [] = [] :=
  rfl

@[simp] theorem tokensText_char (c : Char) (rest : List SqlToken) :
    tokensText (.char c :: rest) = c :: tokensText rest :=
  rfl

@[simp] theorem tokensText_name (name : List Char) (rest : List SqlToken) :
    tokensText (.name name :: rest) = ':' :: (name ++ tokensText rest) :=
  rfl

@[simp] theorem tokensText_append (left right : List SqlToken) :
    tokensText (left ++ right) = tokensText left ++ tokensText right :=
  List.flatMap_append

@[simp] theorem tokensText_chars (text : List Char) :
    tokensText (text.map .char) = text := by
  induction text with
  | nil => rfl
  | cons c rest induction => simp [induction]

/-- Scanning loses no text. -/
theorem tokensText_scanPlaceholders (quote : Option Char) (skipped : Nat) (text : List Char) :
    tokensText (scanPlaceholders quote skipped text) = text.drop skipped := by
  fun_induction scanPlaceholders quote skipped text with
  | case1 => simp
  | case2 quote c rest skipped induction => exact induction
  | case3 c rest mark induction => simp [induction]
  | case4 c rest quoted induction => simp [induction]
  | case5 rest noQuote induction => simp [induction]
  | case6 next rest noCast begins noQuote name induction =>
      rw [tokensText_name, induction, drop_takeWhile_length,
        List.takeWhile_append_dropWhile]
      rfl
  | case7 next rest noCast other noQuote induction => simp [induction]
  | case8 => rfl
  | case9 c rest noQuote noColon induction => simp [induction]

/-- The names among tokens that were read from a place on are the placeholders of their
text. -/
def Exact : Place → List SqlToken → Prop
  | _, [] => True
  | place, .char c :: rest =>
      (place = .outside → c = ':' →
        ∀ first, (tokensText rest).head? = some first → isPlaceholderStart first = false) ∧
      Exact (place.next c) rest
  | place, .name name :: rest =>
      place = .outside ∧ NameRun name (tokensText rest) ∧ Exact .outside rest

/-- Where the scanner is at a place: in a run it knows the mark; outside, a colon that it
has passed by begins no cast. -/
def ScansAt (quote : Option Char) (place : Place) (text : List Char) : Prop :=
  match quote with
  | some mark => place = .within mark
  | none => place = .outside ∨ place = .afterColon ∧ text.head? ≠ some ':'

theorem part_of_start {c : Char} (start : isPlaceholderStart c = true) :
    isPlaceholderPart c = true := by
  simp only [isPlaceholderStart, Bool.or_eq_true] at start
  simp only [isPlaceholderPart, Char.isAlphanum, Bool.or_eq_true]
  exact start.imp_left .inl

theorem nameRun_takeWhile {text : List Char} {first : Char} {rest : List Char}
    (shape : text = first :: rest) (begins : isPlaceholderStart first = true) :
    NameRun (text.takeWhile isPlaceholderPart) (text.dropWhile isPlaceholderPart) where
  begins := by
    have part : isPlaceholderPart first = true := part_of_start begins
    exact ⟨first, rest.takeWhile isPlaceholderPart, by simp [shape, part], begins⟩
  parts c member := by
    have all := List.all_takeWhile (l := text) (p := isPlaceholderPart)
    exact List.all_eq_true.mp all c member
  ends c found := by
    have outside := List.head?_dropWhile_not isPlaceholderPart text
    simpa [found] using outside

theorem ScansAt.outsideRuns {place : Place} {text : List Char}
    (scans : ScansAt none place text) (mark : Char) : place ≠ .within mark := by
  rcases scans with rfl | ⟨rfl, _⟩
  · exact nofun
  · exact nofun

theorem ScansAt.outside_of_colon {place : Place} {text : List Char}
    (scans : ScansAt none place text) (colon : text.head? = some ':') :
    place = .outside := by
  rcases scans with rfl | ⟨_, noColon⟩
  · rfl
  · exact (noColon colon).elim

theorem exact_scanPlaceholders {quote : Option Char} {skipped : Nat} {text : List Char}
    {place : Place} (scans : ScansAt quote place (text.drop skipped)) :
    Exact place (scanPlaceholders quote skipped text) := by
  -- Each case of the scanner steps to a place where it is again; a cast steps twice.
  fun_induction scanPlaceholders quote skipped text generalizing place with
  | case1 => trivial
  | case2 quote c rest skipped induction => exact induction scans
  | case3 c rest mark induction =>
      obtain rfl : place = .within mark := scans
      constructor
      · intro outside
        cases outside
      · apply induction
        by_cases closes : c = mark
        · simp [ScansAt, Place.next, closes]
        · simp [ScansAt, Place.next, closes]
  | case4 c rest quoted induction =>
      have isMark : isQuotationMark c = true := by
        simpa [isQuotationMark] using quoted
      have noColon : c ≠ ':' := by
        rintro rfl
        simp at quoted
      exact ⟨fun _ colon => (noColon colon).elim,
        induction (Place.next_mark scans.outsideRuns isMark)⟩
  | case5 rest noQuote induction =>
      obtain rfl : place = .outside := scans.outside_of_colon rfl
      refine ⟨?_, ?_, induction (.inl rfl)⟩
      · intro _ _ first found
        obtain rfl : ':' = first := by simpa using found
        rfl
      · intro outside
        cases outside
  | case6 next rest noCast begins noQuote name =>
      rename_i induction
      obtain rfl : place = .outside := scans.outside_of_colon rfl
      refine ⟨rfl, ?_, induction (.inl rfl)⟩
      rw [tokensText_scanPlaceholders, drop_takeWhile_length]
      exact nameRun_takeWhile rfl begins
  | case7 next rest noCast other noQuote induction =>
      obtain rfl : place = .outside := scans.outside_of_colon rfl
      refine ⟨?_, induction (.inr ⟨rfl, ?_⟩)⟩
      · intro _ _ first found
        rw [tokensText_scanPlaceholders] at found
        obtain rfl : next = first := by simpa using found
        exact Bool.eq_false_iff.mpr other
      · intro colon
        exact noCast (by simpa using colon)
  | case8 =>
      exact ⟨fun _ _ _ found => by simp at found, trivial⟩
  | case9 c rest noQuote noColon induction =>
      have noMark : isQuotationMark c = false := by
        simpa [isQuotationMark] using noQuote
      exact ⟨fun _ colon => (noColon colon).elim,
        induction (.inl (Place.next_plain scans.outsideRuns noMark noColon))⟩

/-! ## Places of names -/

/-- The names among tokens, each with the text before its colon. -/
def tokenPlaces (before : List Char) : List SqlToken → List (List Char × List Char)
  | [] => []
  | .char c :: rest => tokenPlaces (before ++ [c]) rest
  | .name name :: rest => (before, name) :: tokenPlaces (before ++ ':' :: name) rest

theorem length_le_of_mem_tokenPlaces {before : List Char} {tokens : List SqlToken}
    {place : List Char × List Char} (member : place ∈ tokenPlaces before tokens) :
    before.length ≤ place.1.length := by
  induction tokens generalizing before with
  | nil => cases member
  | cons token rest induction =>
      cases token with
      | char c =>
          have later := induction member
          simp only [List.length_append, List.length_singleton] at later
          omega
      | name name =>
          rcases List.mem_cons.mp member with rfl | member
          · exact Nat.le_refl _
          · have later := induction member
            simp only [List.length_append, List.length_cons] at later
            omega

theorem tokenPlaces_increasing (before : List Char) (tokens : List SqlToken) :
    (tokenPlaces before tokens).Pairwise fun left right =>
      left.1.length < right.1.length := by
  induction tokens generalizing before with
  | nil => exact .nil
  | cons token rest induction =>
      cases token with
      | char c => exact induction _
      | name name =>
          refine .cons ?_ (induction _)
          intro place member
          have later := length_le_of_mem_tokenPlaces member
          simp only [List.length_append, List.length_cons] at later
          change before.length < place.1.length
          omega

/-- A name is as long as it can be, so that what follows the colon determines it. -/
theorem NameRun.unique {name other after otherAfter : List Char}
    (run : NameRun name after) (otherRun : NameRun other otherAfter)
    (same : name ++ after = other ++ otherAfter) : name = other := by
  have read : ∀ {name after : List Char}, NameRun name after →
      (name ++ after).takeWhile isPlaceholderPart = name := by
    intro name after run
    have stops : after.takeWhile isPlaceholderPart = [] := by
      cases shape : after with
      | nil => rfl
      | cons c rest => simp [run.ends c (by simp [shape])]
    rw [List.takeWhile_append_of_pos run.parts, stops, List.append_nil]
  rw [← read run, ← read otherRun, same]

theorem colon_not_part {name : List Char}
    (parts : ∀ c, c ∈ name → isPlaceholderPart c = true) : ':' ∉ name := by
  intro member
  have part := parts ':' member
  cases part

theorem plain_of_part {c : Char} (part : isPlaceholderPart c = true) :
    isQuotationMark c = false ∧ c ≠ ':' := by
  have differs : ∀ other, isPlaceholderPart other = false → c ≠ other := by
    rintro other noPart rfl
    simp [noPart] at part
  have apostrophe := differs '\'' (by decide)
  have quotation := differs '"' (by decide)
  exact ⟨by simp [isQuotationMark, apostrophe, quotation], differs ':' (by decide)⟩

/-- A placeholder leaves everything complete. -/
theorem NameRun.after_eq {name after : List Char} (run : NameRun name after) :
    Place.outside.after (':' :: name) = .outside := by
  obtain ⟨first, rest, rfl, _⟩ := run.begins
  obtain ⟨firstPart, restParts⟩ := List.forall_mem_cons.mp run.parts
  obtain ⟨noMark, noColon⟩ := plain_of_part firstPart
  rw [Place.after_cons, Place.after_cons, Place.next_plain (by exact nofun) noMark noColon]
  exact Place.after_plain fun c member => plain_of_part (restParts c member)

/-- A placeholder after what has been read is the next token or comes after it. -/
theorem PlaceholderAt.next_or_later {text before token rest earlier name after : List Char}
    (found : PlaceholderAt text earlier name after) (begins : before <+: earlier)
    (shape : text = before ++ token ++ rest) (single : ':' ∉ token.tail) :
    (earlier = before ∧ token ++ rest = ':' :: (name ++ after)) ∨
      before ++ token <+: earlier := by
  obtain ⟨more, rfl⟩ := begins
  have paths : token ++ rest = more ++ ':' :: (name ++ after) := by
    have both := shape.symm.trans found.shape
    simpa using both
  cases more with
  | nil => exact .inl ⟨List.append_nil before, paths⟩
  | cons c more =>
      right
      rw [List.prefix_append_right_inj]
      cases token with
      | nil => exact List.nil_prefix
      | cons first token =>
          simp only [List.cons_append, List.cons.injEq] at paths
          obtain ⟨rfl, paths⟩ := paths
          rw [List.cons_prefix_cons]
          refine ⟨rfl, ?_⟩
          rcases List.append_eq_append_iff.mp paths with ⟨between, rfl, _⟩ |
            ⟨between, tokenShape, restShape⟩
          · exact List.prefix_append _ _
          · cases between with
            | nil => simp [tokenShape]
            | cons d between =>
                obtain rfl : ':' = d := (List.cons.inj restShape).1
                exact (single (by simp [tokenShape])).elim

/-- Where the tokens are exact, the places of names among them are those of the
placeholders in their text. -/
theorem Exact.mem_tokenPlaces_iff {before : List Char} {tokens : List SqlToken}
    (tokensExact : Exact (Place.outside.after before) tokens) {earlier name : List Char} :
    (earlier, name) ∈ tokenPlaces before tokens ↔
      before <+: earlier ∧
        ∃ after, PlaceholderAt (before ++ tokensText tokens) earlier name after := by
  -- By induction on the tokens: a placeholder from here on is the first token or comes
  -- after it, since no name has a colon.
  induction tokens generalizing before with
  | nil =>
      simp only [tokenPlaces, List.not_mem_nil, tokensText_nil, List.append_nil, false_iff]
      rintro ⟨begins, after, found⟩
      have lengths := congrArg List.length found.shape
      have shorter := begins.length_le
      simp only [List.length_append, List.length_cons] at lengths
      omega
  | cons token rest induction =>
      cases token with
      | char c =>
          obtain ⟨noName, restExact⟩ := tokensExact
          have later : Exact (Place.outside.after (before ++ [c])) rest := by
            rwa [Place.after_append]
          have assoc : before ++ [c] ++ tokensText rest =
              before ++ tokensText (.char c :: rest) := by
            simp
          rw [tokenPlaces, induction later, assoc]
          constructor
          · rintro ⟨begins, found⟩
            exact ⟨(List.prefix_append _ _).trans begins, found⟩
          · rintro ⟨begins, after, found⟩
            refine ⟨?_, after, found⟩
            rcases found.next_or_later begins assoc.symm List.not_mem_nil with
              ⟨rfl, here⟩ | later
            · -- A colon here would begin the name of a token.
              obtain ⟨colon, follows⟩ := List.cons.inj here
              obtain ⟨first, others, rfl, starts⟩ := found.run.begins
              have noStart := noName (complete_iff_after.mp found.outside) colon first
                (by simpa using congrArg List.head? follows)
              simp [noStart] at starts
            · exact later
      | name token =>
          obtain ⟨outside, run, restExact⟩ := tokensExact
          have partsOutside : Place.outside.after (before ++ ':' :: token) = .outside := by
            rw [Place.after_append, outside]
            exact run.after_eq
          have later : Exact (Place.outside.after (before ++ ':' :: token)) rest := by
            rwa [partsOutside]
          have assoc : before ++ ':' :: token ++ tokensText rest =
              before ++ tokensText (.name token :: rest) := by
            simp
          rw [tokenPlaces, List.mem_cons, induction later, assoc]
          constructor
          · rintro (here | ⟨begins, found⟩)
            · cases here
              exact ⟨List.prefix_rfl, tokensText rest,
                ⟨by simp, complete_iff_after.mpr outside, run⟩⟩
            · exact ⟨(List.prefix_append _ _).trans begins, found⟩
          · rintro ⟨begins, after, found⟩
            rcases found.next_or_later begins assoc.symm (colon_not_part run.parts) with
              ⟨rfl, here⟩ | later
            · obtain ⟨_, follows⟩ := List.cons.inj here
              exact .inl (by rw [run.unique found.run follows])
            · exact .inr ⟨later, after, found⟩

theorem tokenPlaces_scanPlaceholders {text before name : List Char} :
    (before, name) ∈ tokenPlaces [] (scanPlaceholders none 0 text) ↔
      ∃ after, PlaceholderAt text before name after := by
  have tokensExact : Exact (Place.outside.after []) (scanPlaceholders none 0 text) :=
    exact_scanPlaceholders (.inl rfl)
  rw [tokensExact.mem_tokenPlaces_iff, tokensText_scanPlaceholders]
  simp

/-! ## Names of segments -/

/-- The names among tokens. -/
def tokenNames (tokens : List SqlToken) : List String :=
  tokens.filterMap fun
    | .name name => some (String.ofList name)
    | .char _ => none

theorem map_tokenPlaces (before : List Char) (tokens : List SqlToken) :
    (tokenPlaces before tokens).map (fun place => String.ofList place.2) =
      tokenNames tokens := by
  induction tokens generalizing before with
  | nil => rfl
  | cons token rest induction =>
      cases token with
      | char c => exact induction _
      | name name => exact congrArg (String.ofList name :: ·) (induction _)

theorem tokenNames_drop_closing {tokens : List SqlToken} {length : Nat}
    (closing : listClosingLength tokens = some length) :
    tokenNames (tokens.drop length) = tokenNames tokens := by
  induction tokens generalizing length with
  | nil => cases closing
  | cons token rest induction =>
      cases token with
      | name name => cases closing
      | char c =>
          rw [listClosingLength] at closing
          split at closing
          · obtain ⟨shorter, found, rfl⟩ := Option.map_eq_some_iff.mp closing
            exact induction found
          · split at closing
            · cases closing
              rfl
            · cases closing

theorem placeholderNames_textSegment (before : List Char) (rest : List Segment) :
    placeholderNames (textSegment before ++ rest) = placeholderNames rest := by
  unfold textSegment
  split
  · rfl
  · rfl

theorem placeholderNames_segmentsAfter (before : List Char) (skipped : Nat)
    (tokens : List SqlToken) :
    placeholderNames (segmentsAfter before skipped tokens) =
      tokenNames (tokens.drop skipped) := by
  induction tokens generalizing before skipped with
  | nil =>
      simpa [segmentsAfter, tokenNames, placeholderNames] using
        placeholderNames_textSegment before []
  | cons token rest induction =>
      cases skipped with
      | succ skipped =>
          rw [segmentsAfter]
          exact induction before skipped
      | zero =>
          cases token with
          | char c =>
              rw [segmentsAfter]
              exact induction (c :: before) 0
          | name name =>
              rw [segmentsAfter]
              split
              case h_1 kept length opening closing =>
                rw [placeholderNames_textSegment]
                have names := (induction [] length).trans (tokenNames_drop_closing closing)
                exact congrArg (String.ofList name :: ·) names
              case h_2 =>
                rw [placeholderNames_textSegment]
                exact congrArg (String.ofList name :: ·) (induction [] 0)

/-- The names that a text is found to have are those of its placeholders: for each place
with a placeholder one name, in the order of the places, and no other name. -/
theorem segments_name_placeholders (text : String) :
    ∃ places : List (List Char × List Char),
      placeholderNames (segments text) = places.map (fun place => String.ofList place.2) ∧
      places.Pairwise (fun left right => left.1.length < right.1.length) ∧
      ∀ before name, (before, name) ∈ places ↔
        ∃ after, PlaceholderAt text.toList before name after := by
  refine ⟨tokenPlaces [] (scanPlaceholders none 0 text.toList), ?_, ?_, ?_⟩
  · rw [segments, placeholderNames_segmentsAfter, map_tokenPlaces]
    rfl
  · exact tokenPlaces_increasing _ _
  · intro before name
    exact tokenPlaces_scanPlaceholders

/-- Casts are taken from the left, and a doubled quotation mark ends a run and begins
another. -/
example : placeholderNames (segments "a:::b, ':c'':d', x::e, \":f\":g:") = ["b", "g"] := by
  decide

end RowPlan
