import Mathlib.Data.List.Infix
import RowPlan.Proofs.MarkerText
import RowPlan.Proofs.Success
import RowPlan.Statement.Suffix

/-!
# The order marker in a text

Where a text has the order marker, and what comes before has none, the marker is found
there. Texts without the marker stay without it where they are put together around a text
that shares no character with it.
-/

namespace RowPlan

section

variable {marker left middle right before : List Char} {c : Char}

/-! ## Occurrences -/

theorem eq_nil_of_suffix_concat (foreign : c ∉ marker) (ends : marker <:+ left ++ [c]) :
    marker = [] := by
  rcases List.eq_nil_or_concat' marker with rfl | ⟨front, last, rfl⟩
  · rfl
  · obtain ⟨_, shape⟩ := ends
    rw [← List.append_assoc] at shape
    have same := List.singleton_inj.mp (List.append_inj_right' shape rfl)
    simp [same] at foreign

/-- A marker does not go across a character that it does not have. -/
theorem infix_beside (foreign : c ∉ marker) (found : marker <:+: left ++ c :: right) :
    marker <:+: left ∨ marker <:+: right := by
  rw [List.append_cons] at found
  rcases List.infix_append_iff.mp found with within | later | ⟨first, second, rfl, ends, begins⟩
  · rcases List.infix_concat_iff.mp within with ends | earlier
    · rw [eq_nil_of_suffix_concat foreign ends]
      exact .inl List.nil_infix
    · exact .inl earlier
  · exact .inr later
  · have none : first = [] :=
      eq_nil_of_suffix_concat (fun member => foreign (List.mem_append_left _ member)) ends
    rw [none]
    exact .inr begins.isInfix

theorem infix_behind (foreign : ∀ c, c ∈ middle → c ∉ marker)
    (found : marker <:+: middle ++ right) : marker <:+: right := by
  induction middle with
  | nil => exact found
  | cons c middle induction =>
      obtain ⟨here, later⟩ := List.forall_mem_cons.mp foreign
      have behind : marker <:+: [] ∨ marker <:+: middle ++ right := infix_beside here found
      rcases behind with empty | found
      · rw [List.infix_nil.mp empty]
        exact List.nil_infix
      · exact induction later found

/-! ## The first occurrence -/

/-- A marker is found where it does not begin earlier. -/
theorem splitAtMarker_append (present : marker ≠ [])
    (first : ¬ marker <:+: before ++ marker.dropLast) (after : List Char) :
    splitAtMarker marker (before ++ (marker ++ after)) = some (before, after) := by
  induction before with
  | nil =>
      obtain ⟨c, rest, rfl⟩ := List.exists_cons_of_ne_nil present
      simp [splitAtMarker]
  | cons c before induction =>
      have later : ¬ marker <:+: before ++ marker.dropLast :=
        fun found => first (List.infix_cons found)
      have notHere : marker.isPrefixOf (c :: (before ++ (marker ++ after))) = false := by
        rw [Bool.eq_false_iff]
        intro here
        -- The marker is not longer than what comes before its last character.
        have whole : c :: before ++ marker.dropLast <+: c :: (before ++ (marker ++ after)) := by
          rw [List.cons_append, List.cons_prefix_cons, List.prefix_append_right_inj]
          exact ⟨rfl, marker.dropLast_prefix.trans (List.prefix_append _ _)⟩
        have short : marker.length ≤ (c :: before ++ marker.dropLast).length := by
          simp
          omega
        exact first (List.prefix_of_prefix_length_le (List.isPrefixOf_iff_prefix.mp here)
          whole short).isInfix
      rw [List.cons_append, splitAtMarker, notHere]
      simp [induction later]

theorem replaceMarker?_append {marker before : String} (present : marker.toList ≠ [])
    (first : ¬ marker.toList <:+: before.toList ++ marker.toList.dropLast)
    (replacement after : String) :
    replaceMarker? marker replacement (before ++ (marker ++ after)) =
      some (before ++ (replacement ++ after)) := by
  have split := splitAtMarker_append present first after.toList
  rw [replaceMarker?, String.toList_append, String.toList_append, split]
  simp

end

/-! ## Texts without the order marker -/

/-- The text does not have the order marker. -/
def OrderFree (text : String) : Prop :=
  ¬ orderMarker.toList <:+: text.toList

instance : DecidablePred OrderFree :=
  fun text => inferInstanceAs (Decidable (¬ orderMarker.toList <:+: text.toList))

/-- A text that is not empty and shares no character with the order marker. -/
structure OrderNeutral (text : String) : Prop where
  present : text.toList ≠ []
  foreign : ∀ c, c ∈ text.toList → c ∉ orderMarker.toList

section

variable {left middle right separator : String}

theorem orderNeutral_literal {text : String}
    (checked : (!text.toList.isEmpty &&
      text.toList.all fun c => !orderMarker.toList.contains c) = true) :
    OrderNeutral text := by
  simp only [Bool.and_eq_true, List.all_eq_true, Bool.not_eq_true', List.isEmpty_eq_false_iff,
    List.contains_eq_mem, decide_eq_false_iff_not] at checked
  exact ⟨checked.1, checked.2⟩

theorem OrderNeutral.orderFree (neutral : OrderNeutral middle) : OrderFree middle := by
  intro found
  have behind : orderMarker.toList <:+: middle.toList ++ [] := by simpa using found
  have empty := List.infix_nil.mp (infix_behind neutral.foreign behind)
  cases empty

theorem OrderNeutral.infix_beside (neutral : OrderNeutral middle) {left right : List Char}
    (found : orderMarker.toList <:+: left ++ (middle.toList ++ right)) :
    orderMarker.toList <:+: left ∨ orderMarker.toList <:+: right := by
  obtain ⟨c, rest, shape⟩ := List.exists_cons_of_ne_nil neutral.present
  have foreign := neutral.foreign
  rw [shape, List.cons_append] at found
  rw [shape] at foreign
  obtain ⟨here, later⟩ := List.forall_mem_cons.mp foreign
  exact (RowPlan.infix_beside here found).imp_right (infix_behind later)

theorem OrderFree.between (leftFree : OrderFree left) (neutral : OrderNeutral middle)
    (rightFree : OrderFree right) : OrderFree (left ++ middle ++ right) := by
  intro found
  rw [String.toList_append, String.toList_append, List.append_assoc] at found
  exact (neutral.infix_beside found).elim leftFree rightFree

theorem OrderFree.before (neutral : OrderNeutral middle) (rightFree : OrderFree right) :
    OrderFree (middle ++ right) := by
  have empty : OrderFree "" := by decide
  simpa using empty.between neutral rightFree

theorem OrderFree.after (leftFree : OrderFree left) (neutral : OrderNeutral middle) :
    OrderFree (left ++ middle) := by
  have empty : OrderFree "" := by decide
  simpa using leftFree.between neutral empty

theorem orderFree_intercalate (neutral : OrderNeutral separator) {parts : List String}
    (each : ∀ part, part ∈ parts → OrderFree part) :
    OrderFree (separator.intercalate parts) := by
  induction parts with
  | nil =>
      have empty : OrderFree "" := by decide
      simpa using empty
  | cons part rest induction =>
      obtain ⟨here, later⟩ := List.forall_mem_cons.mp each
      cases rest with
      | nil => simpa using here
      | cons next others =>
          rw [String.intercalate_cons_cons]
          exact here.between neutral (induction later)

/-- No marker of a slot has a character of the order marker. -/
theorem orderNeutral_marker (style : MarkerStyle) (number : Nat) :
    OrderNeutral (style.marker number) := by
  constructor
  · cases style with
    | question => simp [MarkerStyle.marker]
    | numbered => simp [MarkerStyle.marker]
  · intro c member
    have noDigits : (orderMarker.toList.all fun c => !c.isDigit) = true := by decide
    rcases mem_marker member with rfl | rfl | digit
    · decide
    · decide
    · intro known
      have noDigit := List.all_eq_true.mp noDigits c known
      simp [digit] at noDigit

/-- Quotation marks that are written twice do not make up a marker with the text before. -/
theorem infix_of_infix_doubleQuotes {front text : List Char}
    (found : orderMarker.toList <:+: front ++ Options.doubleQuotes text) :
    orderMarker.toList <:+: front ++ text := by
  induction text generalizing front with
  | nil => exact found
  | cons c rest induction =>
      unfold Options.doubleQuotes at found
      split at found
      case isTrue =>
        have quotes : OrderNeutral "\"\"" := orderNeutral_literal (by decide)
        rcases quotes.infix_beside found with earlier | later
        · exact earlier.trans (List.prefix_append _ _).isInfix
        · have inRest : orderMarker.toList <:+: [] ++ rest := induction later
          exact inRest.trans ((List.suffix_cons _ _).trans (List.suffix_append _ _)).isInfix
      case isFalse =>
        rw [List.append_cons] at found ⊢
        exact induction found

theorem orderFree_quote (options : Options) {identifier : String} (free : OrderFree identifier) :
    OrderFree (options.quote identifier) := by
  unfold Options.quote
  split
  case isFalse => exact free
  case isTrue =>
    have doubled : OrderFree (String.ofList (Options.doubleQuotes identifier.toList)) := by
      intro found
      rw [String.toList_ofList] at found
      have single : orderMarker.toList <:+: [] ++ identifier.toList :=
        infix_of_infix_doubleQuotes found
      exact free single
    have quotationMark : OrderNeutral "\"" := orderNeutral_literal (by decide)
    have whole := OrderFree.before quotationMark (doubled.after quotationMark)
    simpa [OrderFree] using whole

end

/-! ## Sort clauses -/

/-- The clause that sorts by some keys, or does not sort. -/
def sortClause : Option String → String
  | some keys => "ORDER BY " ++ keys
  | none => ""

/-- The keys can be told from the clause. -/
theorem sortClause_injective : Function.Injective sortClause := by
  intro keys others same
  cases keys with
  | none =>
      cases others with
      | none => rfl
      | some others => simp [sortClause] at same
  | some keys =>
      cases others with
      | none => simp [sortClause] at same
      | some others => simpa [sortClause] using same

private theorem ordered_by : " ORDER BY " = " " ++ "ORDER BY " :=
  rfl

theorem intercalate_ne_empty {separator first : String} (present : first ≠ "")
    (rest : List String) : separator.intercalate (first :: rest) ≠ "" := by
  cases rest with
  | nil => simpa using present
  | cons next others =>
      rw [String.intercalate_cons_cons]
      simp [present]

namespace Order

variable {order : Order} {columns : List (String × String)} {clause : String}

theorem keyText_ne_empty {key : SortKey} {text : String}
    (success : keyText columns key = .ok text) : text ≠ "" := by
  unfold keyText at success
  split at success
  case h_1 =>
    cases success
    simp
  case h_2 => cases success

/-- A clause sorts by the keys of its order. -/
theorem keys_of_render (rendered : order.render columns = .ok clause) :
    ∃ keys, sortClause keys = clause ∧ (keys = none ↔ order.keys = []) ∧ keys ≠ some "" := by
  unfold render at rendered
  split at rendered
  case isTrue unsorted =>
    cases rendered
    exact ⟨none, rfl, by simpa using unsorted, by simp⟩
  case isFalse sorted =>
    obtain ⟨texts, found, equality⟩ := bind_eq_ok_iff.mp rendered
    cases equality
    refine ⟨some (", ".intercalate texts), rfl, by simpa using sorted, ?_⟩
    cases keys : order.keys with
    | nil => simp [keys] at sorted
    | cons key others =>
        rw [keys, List.mapM_cons] at found
        simp only [bind_eq_ok_iff] at found
        obtain ⟨text, keySuccess, others, _, equality⟩ := found
        cases equality
        simpa using intercalate_ne_empty (keyText_ne_empty keySuccess) others

/-- The marker makes way for the clause that comes after the space before it. Without keys
the space goes too. -/
theorem substitute_at_marker {before : String} (free : OrderFree before) (after : String)
    {keys : Option String} (rendered : order.render columns = .ok (sortClause keys)) :
    order.substitute (before ++ (" " ++ orderMarker ++ after)) columns =
      .ok (before ++ ((keys.map fun keys => " ORDER BY " ++ keys).getD "" ++ after)) := by
  have first : ¬ orderMarker.toList <:+: before.toList ++ ' ' :: orderMarker.toList.dropLast := by
    intro found
    rcases infix_beside (by decide) found with earlier | short
    · exact free earlier
    · exact absurd short (by decide)
  cases keys with
  | none =>
      -- The marker does not occur earlier with a space if it does not without.
      have spaced : ¬ (" " ++ orderMarker).toList <:+:
          before.toList ++ (" " ++ orderMarker).toList.dropLast := by
        intro found
        exact first ((List.suffix_cons ' ' _).isInfix.trans found)
      have removed := replaceMarker?_append (by decide) spaced "" after
      rw [substitute, rendered]
      simp [bind, Except.bind, pure, Except.pure, sortClause, removed]
  | some keys =>
      have unspaced : ¬ orderMarker.toList <:+:
          (before ++ " ").toList ++ orderMarker.toList.dropLast := by
        simpa using first
      have replaced := replaceMarker?_append (by decide) unspaced (sortClause (some keys)) after
      have shape : before ++ (" " ++ orderMarker ++ after) =
          before ++ " " ++ (orderMarker ++ after) := by
        simp only [String.append_assoc]
      have sorted : before ++ " " ++ (sortClause (some keys) ++ after) =
          before ++ (" ORDER BY " ++ keys ++ after) := by
        simp only [sortClause, String.append_assoc, ordered_by]
      have present : (sortClause (some keys) == "") = false := by simp [sortClause]
      rw [substitute, rendered, shape]
      simp only [bind, Except.bind, present, Bool.false_eq_true, if_false, replaced, sorted]
      rfl

end Order

end RowPlan
