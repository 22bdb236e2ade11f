import Mathlib.Data.List.DropRight
import RowPlan.ColumnType

/-!
# Names of column types

Within seven bits a name is read by its folded form: without blanks at its ends, and with small
letters. The name that a type has in SQL folds to one that is read as the same type. So a name
means one type however it is spelled, and a type can be told by its name.
-/

namespace RowPlan

/-- All characters have seven bits. -/
def SevenBits (text : List Char) : Prop :=
  ∀ c, c ∈ text → c.toNat < 128

instance (text : List Char) : Decidable (SevenBits text) :=
  List.decidableBAll (fun c : Char => c.toNat < 128) text

/-! ## Characters -/

section

variable {c : Char}

theorem forall_of_codes {property : Char → Prop}
    (codes : ∀ code, code < 128 → property (Char.ofNat code)) (small : c.toNat < 128) :
    property c :=
  Char.ofNat_toNat c ▸ codes c.toNat small

theorem toLower_lt (small : c.toNat < 128) : c.toLower.toNat < 128 := by
  apply forall_of_codes _ small
  decide

theorem toUpper_lt (small : c.toNat < 128) : c.toUpper.toNat < 128 := by
  apply forall_of_codes _ small
  decide

theorem isBlank_toLower (small : c.toNat < 128) : isBlank c.toLower = isBlank c := by
  apply forall_of_codes _ small
  decide

theorem isBlank_toUpper (small : c.toNat < 128) : isBlank c.toUpper = isBlank c := by
  apply forall_of_codes _ small
  decide

theorem toLower_toUpper (small : c.toNat < 128) : c.toUpper.toLower = c.toLower := by
  apply forall_of_codes _ small
  decide

theorem toLower_toLower (small : c.toNat < 128) : c.toLower.toLower = c.toLower := by
  apply forall_of_codes _ small
  decide

end

/-! ## Texts -/

section

variable {text : List Char}

theorem lowerAfter_eq_map (small : SevenBits text) (before : List Char) :
    lowerAfter before text = text.map Char.toLower := by
  induction text generalizing before with
  | nil => rfl
  | cons c rest induction =>
      obtain ⟨here, later⟩ := List.forall_mem_cons.mp small
      have noSigma : c ≠ 'Σ' := by
        rintro rfl
        exact absurd here (by decide)
      rw [lowerAfter, if_neg noSigma, lowerChar, if_pos here, induction later]
      rfl

theorem lowerText_eq_map (small : SevenBits text) : lowerText text = text.map Char.toLower :=
  lowerAfter_eq_map small []

theorem upperText_eq_map (small : SevenBits text) : upperText text = text.map Char.toUpper := by
  induction text with
  | nil => rfl
  | cons c rest induction =>
      obtain ⟨here, later⟩ := List.forall_mem_cons.mp small
      have others : List.flatMap upperChar rest = rest.map Char.toUpper := induction later
      rw [upperText, List.flatMap_cons, others, upperChar, if_pos here]
      rfl

theorem SevenBits.lower (small : SevenBits text) : SevenBits (text.map Char.toLower) := by
  intro c member
  obtain ⟨source, among, rfl⟩ := List.mem_map.mp member
  exact toLower_lt (small source among)

theorem SevenBits.upper (small : SevenBits text) : SevenBits (text.map Char.toUpper) := by
  intro c member
  obtain ⟨source, among, rfl⟩ := List.mem_map.mp member
  exact toUpper_lt (small source among)

theorem trimStart_map {change : Char → Char}
    (same : ∀ c, c ∈ text → isBlank (change c) = isBlank c) :
    trimStart (text.map change) = (trimStart text).map change := by
  induction text with
  | nil => rfl
  | cons c rest induction =>
      obtain ⟨here, later⟩ := List.forall_mem_cons.mp same
      cases blank : isBlank c with
      | true =>
          rw [blank] at here
          rw [List.map_cons, trimStart, List.dropWhile_cons_of_pos here, trimStart,
            List.dropWhile_cons_of_pos blank]
          exact induction later
      | false => simp [trimStart, here, blank]

theorem trimEnd_map {change : Char → Char}
    (same : ∀ c, c ∈ text → isBlank (change c) = isBlank c) :
    trimEnd (text.map change) = (trimEnd text).map change := by
  have reversed := @trimStart_map text.reverse change fun c member =>
    same c (List.mem_reverse.mp member)
  rw [List.map_reverse] at reversed
  change (trimStart (text.map change).reverse).reverse = (trimStart text.reverse).reverse.map change
  rw [reversed, List.map_reverse]

theorem trim_map {change : Char → Char}
    (same : ∀ c, c ∈ text → isBlank (change c) = isBlank c) :
    trim (text.map change) = (trim text).map change := by
  rw [trim, trimStart_map same, trimEnd_map, trim]
  intro c member
  exact same c ((List.dropWhile_sublist isBlank).subset member)

end

/-! ## Blanks at the ends -/

/-- The text is a core with blanks around it. -/
def Padded (core text : List Char) : Prop :=
  ∃ before after, (∀ c, c ∈ before → isBlank c = true) ∧ (∀ c, c ∈ after → isBlank c = true) ∧
    text = before ++ core ++ after

section

variable {text : List Char}

theorem trimEnd_append {after : List Char} (blank : ∀ c, c ∈ after → isBlank c = true) :
    trimEnd (text ++ after) = trimEnd text := by
  rw [trimEnd, List.reverse_append, List.dropWhile_append_of_pos, trimEnd]
  exact fun c member => blank c (List.mem_reverse.mp member)

theorem trim_append {after : List Char} (blank : ∀ c, c ∈ after → isBlank c = true) :
    trim (text ++ after) = trim text := by
  induction text with
  | nil =>
      have nothing : trimStart after = [] := List.dropWhile_eq_nil_iff.mpr blank
      rw [List.nil_append, trim, nothing]
      rfl
  | cons c rest induction =>
      cases first : isBlank c with
      | true =>
          rw [List.cons_append, trim, trim, trimStart, trimStart,
            List.dropWhile_cons_of_pos first, List.dropWhile_cons_of_pos first]
          exact induction
      | false =>
          have kept : ∀ others, trimStart (c :: others) = c :: others :=
            fun others => List.dropWhile_cons_of_neg (Bool.not_eq_true _ ▸ first)
          rw [trim, trim, List.cons_append, kept, kept, ← List.cons_append]
          exact trimEnd_append blank

theorem trim_of_padded {core : List Char} (padded : Padded core text) : trim text = trim core := by
  obtain ⟨before, after, blankBefore, blankAfter, rfl⟩ := padded
  rw [trim_append blankAfter, trim, trimStart, List.dropWhile_append_of_pos blankBefore]
  rfl

theorem SevenBits.of_padded {core : List Char} (small : SevenBits text)
    (padded : Padded core text) : SevenBits core := by
  obtain ⟨before, after, _, _, rfl⟩ := padded
  intro c member
  exact small c (List.mem_append_left _ (List.mem_append_right _ member))

theorem padded_trim (text : List Char) : Padded (trim text) text := by
  refine ⟨text.takeWhile isBlank, (trimStart text).rtakeWhile isBlank, ?_, ?_, ?_⟩
  · exact fun c member => List.mem_takeWhile_imp member
  · exact fun c member => List.mem_rtakeWhile_imp member
  · have ending : trim text ++ (trimStart text).rtakeWhile isBlank = trimStart text :=
      List.rdropWhile_append_rtakeWhile
    rw [List.append_assoc, ending]
    exact List.takeWhile_append_dropWhile.symm

theorem trim_trim (text : List Char) : trim (trim text) = trim text :=
  (trim_of_padded (padded_trim text)).symm

theorem SevenBits.trim (small : SevenBits text) : SevenBits (trim text) :=
  small.of_padded (padded_trim text)

end

namespace ColumnType

/-! ## Folded names -/

/-- The form of a name that decides what type it names. -/
def folded (text : List Char) : List Char :=
  (trim text).map Char.toLower

variable {text : List Char} {name : String}

theorem SevenBits.folded (small : SevenBits text) : SevenBits (folded text) :=
  small.trim.lower

/-- Folding undoes the change to capital letters. -/
theorem folded_upper (small : SevenBits text) :
    folded ((folded text).map Char.toUpper) = folded text := by
  have trimmed : trim (folded text) = folded text := by
    rw [folded, trim_map, trim_trim]
    exact fun c member => isBlank_toLower (small.trim c member)
  rw [folded, trim_map fun c member => isBlank_toUpper (SevenBits.folded small c member), trimmed,
    folded, List.map_map, List.map_map]
  apply List.map_congr_left
  intro c member
  have small := small.trim c member
  rw [Function.comp_apply, Function.comp_apply, toLower_toUpper (toLower_lt small),
    toLower_toLower small]

theorem ofName_eq (small : SevenBits name.toList) :
    ofName name = (spellings.lookup (String.ofList (folded name.toList))).getD
      (other (String.ofList ((folded name.toList).map Char.toUpper))) := by
  simp only [ofName, folded, lowerText_eq_map small.trim, upperText_eq_map small.trim.lower]
  generalize spellings.lookup _ = found
  cases found with
  | some type => rfl
  | none => rfl

/-- The name of a type that has spellings of its own is one of them. -/
theorem ofName_sql_of_spelling :
    ∀ entry, entry ∈ spellings → ofName entry.2.sql = entry.2 := by
  decide

/-- A name folds to a spelling of its type, or to no spelling and is kept in capital letters. -/
theorem ofName_cases (small : SevenBits name.toList) :
    (String.ofList (folded name.toList), ofName name) ∈ spellings ∨
      spellings.lookup (String.ofList (folded name.toList)) = none ∧
        ofName name = other (String.ofList ((folded name.toList).map Char.toUpper)) := by
  rw [ofName_eq small]
  cases found : spellings.lookup (String.ofList (folded name.toList)) with
  | some type =>
      obtain ⟨before, after, shape, _⟩ := List.lookup_eq_some_iff.mp found
      left
      rw [shape]
      exact List.mem_append_right _ List.mem_cons_self
  | none => exact .inr ⟨rfl, rfl⟩

/-- A type that was read of a name is read again of the name that it has in SQL. -/
theorem ofName_sql_ofName (small : SevenBits name.toList) :
    ofName (ofName name).sql = ofName name := by
  rcases ofName_cases small with spelled | ⟨unspelled, unknown⟩
  · have again := ofName_sql_of_spelling _ spelled
    exact again
  · have upper := (SevenBits.folded small).upper
    rw [unknown, sql, ofName_eq (by rwa [String.toList_ofList]), String.toList_ofList,
      folded_upper small, unspelled, Option.getD_none]

/-! ## Names with one meaning -/

/-- The texts differ at most in letter case and in the blanks around them. -/
def SameSpelling (left right : List Char) : Prop :=
  ∃ leftCore rightCore, Padded leftCore left ∧ Padded rightCore right ∧
    leftCore.map Char.toLower = rightCore.map Char.toLower

theorem folded_of_padded {core : List Char} (small : SevenBits text) (padded : Padded core text) :
    folded text = trim (core.map Char.toLower) := by
  rw [folded, trim_of_padded padded, trim_map]
  exact fun c member => isBlank_toLower (small.of_padded padded c member)

/-- Within seven bits just the texts of one spelling have one folded form. -/
theorem folded_eq_iff {left right : List Char} (leftSmall : SevenBits left)
    (rightSmall : SevenBits right) : folded left = folded right ↔ SameSpelling left right := by
  constructor
  · intro same
    exact ⟨trim left, trim right, padded_trim left, padded_trim right, same⟩
  · rintro ⟨leftCore, rightCore, leftPadded, rightPadded, same⟩
    rw [folded_of_padded leftSmall leftPadded, folded_of_padded rightSmall rightPadded, same]

/-- A type with spellings of its own, not kept by its name alone. -/
def isKnown : ColumnType → Bool
  | other _ => false
  | _ => true

theorem isKnown_of_spelling : ∀ entry, entry ∈ spellings → entry.2.isKnown = true := by
  decide

theorem ofName_sql_of_known {type : ColumnType} (known : type.isKnown = true) :
    ofName type.sql = type := by
  have spelled : type ∈ spellings.map Prod.snd := by
    cases type with
    | other name => cases known
    | _ => decide
  obtain ⟨entry, member, rfl⟩ := List.mem_map.mp spelled
  exact ofName_sql_of_spelling entry member

theorem folded_of_unknown {unknown : String} (small : SevenBits name.toList)
    (kept : ofName name = other unknown) : folded unknown.toList = folded name.toList := by
  rcases ofName_cases small with spelled | ⟨_, upper⟩
  · have known := isKnown_of_spelling _ spelled
    simp only [kept, isKnown, Bool.false_eq_true] at known
  · obtain rfl := other.inj (kept.symm.trans upper)
    rw [String.toList_ofList, folded_upper small]

/-- Within seven bits a name means what its spelling means. Names of one spelling are read as one
type, and that type is read again of its name in SQL, so that types with different names there
differ. A name that is kept is kept for its own spelling only, and neither printed nor read again
as a known type. -/
theorem ofName_one_meaning {name second : String} (small : SevenBits name.toList)
    (secondSmall : SevenBits second.toList) :
    (SameSpelling name.toList second.toList → ofName name = ofName second) ∧
    ofName (ofName name).sql = ofName name ∧
    (ofName name = ofName second ↔ (ofName name).sql = (ofName second).sql) ∧
    (∀ unknown, ofName name = other unknown → ofName second = other unknown →
      SameSpelling name.toList second.toList) ∧
    ∀ known, known.isKnown = true → ofName known.sql = known ∧
      ∀ unknown, ofName name = other unknown → unknown ≠ known.sql ∧ ofName unknown ≠ known := by
  refine ⟨?_, ofName_sql_ofName small, ⟨congrArg sql, ?_⟩, ?_, ?_⟩
  · intro alike
    rw [ofName_eq small, ofName_eq secondSmall, (folded_eq_iff small secondSmall).mpr alike]
  · intro same
    calc
      ofName name = ofName (ofName name).sql := (ofName_sql_ofName small).symm
      _ = ofName (ofName second).sql := by rw [same]
      _ = ofName second := ofName_sql_ofName secondSmall
  · intro unknown kept secondKept
    apply (folded_eq_iff small secondSmall).mp
    exact (folded_of_unknown small kept).symm.trans (folded_of_unknown secondSmall secondKept)
  · intro known isKnown
    refine ⟨ofName_sql_of_known isKnown, ?_⟩
    intro unknown kept
    have reread : ofName unknown = other unknown := by
      have again := ofName_sql_ofName small
      rwa [kept] at again
    have differ : ofName unknown ≠ known := by
      rintro rfl
      rw [reread] at isKnown
      cases isKnown
    exact ⟨fun same => differ (same ▸ ofName_sql_of_known isKnown), differ⟩

theorem ofName_one_meaning_ciText :
    SevenBits " CiText\t".toList ∧ SevenBits "citext".toList ∧
      SameSpelling " CiText\t".toList "citext".toList ∧
      ofName " CiText\t" = ofName "citext" ∧
      ofName (ofName " CiText\t").sql = ofName " CiText\t" ∧
      ofName " CiText\t" = other "CITEXT" ∧ "CITEXT" ≠ ColumnType.text.sql ∧
      ofName "CITEXT" ≠ ColumnType.text := by
  have small : SevenBits " CiText\t".toList := by decide
  have secondSmall : SevenBits "citext".toList := by decide
  have padded : Padded "CiText".toList " CiText\t".toList :=
    ⟨[' '], ['\t'], List.forall_mem_singleton.mpr rfl, List.forall_mem_singleton.mpr rfl, rfl⟩
  have bare : Padded "citext".toList "citext".toList :=
    ⟨[], [], List.forall_mem_nil _, List.forall_mem_nil _, rfl⟩
  have alike : SameSpelling " CiText\t".toList "citext".toList := ⟨_, _, padded, bare, rfl⟩
  obtain ⟨oneType, reread, _, _, known⟩ := ofName_one_meaning small secondSmall
  have kept : ofName " CiText\t" = other "CITEXT" := rfl
  exact ⟨small, secondSmall, alike, oneType alike, reread, kept,
    (known .text rfl).2 "CITEXT" kept⟩

end ColumnType

end RowPlan
