import RowPlan.Proofs.PlaceholderPlaces
import RowPlan.Proofs.SegmentPlaces
import RowPlan.Proofs.ValueSlots

/-!
# Parameters in given texts

A given text has to name every value parameter and no other name. The first placeholder that
names none is the error, before parameters that the text does not name are. Which names the
text has is said by the places of its placeholders, so that nothing here depends on how it is
read.
-/

namespace RowPlan

/-! ## Names in a text -/

/-- A text has a placeholder of a name behind a part of it. -/
def NamedBehind (text : String) (before : List Char) (name : String) : Prop :=
  ∃ after, PlaceholderAt text.toList before name.toList after

/-- A text has a placeholder of a name. -/
def Mentions (text name : String) : Prop :=
  ∃ before, NamedBehind text before name

/-- The places of the placeholders in a text. -/
def textPlaces (text : String) : List (List Char × List Char) :=
  tokenPlaces [] (scanPlaceholders none 0 text.toList)

section

variable {text name : String} {before : List Char}

theorem mem_textPlaces_iff :
    (before, name.toList) ∈ textPlaces text ↔ NamedBehind text before name :=
  tokenPlaces_scanPlaceholders

theorem placeholderNames_segments (text : String) :
    placeholderNames (segments text) =
      (textPlaces text).map fun place => String.ofList place.2 := by
  rw [segments, placeholderNames_segmentsAfter, List.drop_zero, textPlaces, map_tokenPlaces]

theorem mentions_iff : Mentions text name ↔ name ∈ placeholderNames (segments text) := by
  rw [placeholderNames_segments, List.mem_map]
  constructor
  · rintro ⟨before, named⟩
    exact ⟨_, mem_textPlaces_iff.mpr named, String.ofList_toList⟩
  · rintro ⟨⟨before, characters⟩, member, rfl⟩
    refine ⟨before, mem_textPlaces_iff.mp ?_⟩
    rwa [String.toList_ofList]

instance (text name : String) : Decidable (Mentions text name) :=
  decidable_of_iff _ mentions_iff.symm

/-- Of the placeholders whose name is not known one comes first. -/
theorem exists_first_place {known : List String}
    (unknown : ∃ name, Mentions text name ∧ name ∉ known) :
    ∃ before name left right, NamedBehind text before name ∧ name ∉ known ∧
      placeholderNames (segments text) = left ++ name :: right ∧
      (∀ other, other ∈ left → other ∈ known) ∧
      ∀ earlier other, NamedBehind text earlier other → earlier.length < before.length →
        other ∈ known := by
  -- The first in the list of places is the first in the text, since the places increase.
  obtain ⟨some, ⟨somewhere, named⟩, absent⟩ := unknown
  have present : ((textPlaces text).find? fun place =>
      !known.contains (String.ofList place.2)).isSome = true := by
    refine List.find?_isSome.mpr ⟨_, mem_textPlaces_iff.mpr named, ?_⟩
    simpa [String.ofList_toList] using absent
  obtain ⟨⟨before, name⟩, found⟩ := Option.isSome_iff_exists.mp present
  obtain ⟨firstAbsent, left, right, split, leftKnown⟩ := List.find?_eq_some_iff_append.mp found
  have increasing := tokenPlaces_increasing [] (scanPlaceholders none 0 text.toList)
  rw [← textPlaces, split, List.pairwise_append, List.pairwise_cons] at increasing
  have leftNames : ∀ place, place ∈ left → String.ofList place.2 ∈ known := by
    simpa using leftKnown
  refine ⟨before, String.ofList name, left.map fun place => String.ofList place.2,
    right.map fun place => String.ofList place.2, ?_, by simpa using firstAbsent, ?_, ?_, ?_⟩
  · rw [← mem_textPlaces_iff, String.toList_ofList, split]
    exact List.mem_append_right left List.mem_cons_self
  · rw [placeholderNames_segments, split, List.map_append, List.map_cons]
  · intro other member
    obtain ⟨place, inLeft, rfl⟩ := List.mem_map.mp member
    exact leftNames place inLeft
  · intro earlier other otherNamed shorter
    have member := mem_textPlaces_iff.mpr otherNamed
    rw [split, List.mem_append, List.mem_cons] at member
    rcases member with inLeft | here | inRight
    · have name := leftNames _ inLeft
      rwa [String.ofList_toList] at name
    · obtain ⟨rfl, _⟩ := Prod.mk.inj here
      exact (Nat.lt_irrefl _ shorter).elim
    · have behind := increasing.2.1.1 _ inRight
      exact (Nat.lt_asymm shorter behind).elim

end

/-! ## Names of values -/

/-- The names of the value parameters, as declared. -/
def FunctionDecl.valueNames (function : FunctionDecl) : List String :=
  function.values.map ParameterDecl.name

namespace FunctionDecl

variable {function : FunctionDecl} {used : List String}

theorem checkUsed_of_used (allUsed : ∀ name, name ∈ function.valueNames → name ∈ used) :
    function.checkUsed used = .ok () := by
  have none : (function.values.filter fun parameter => !used.contains parameter.name) = [] := by
    simpa [valueNames] using allUsed
  rw [checkUsed, none]

theorem checkUsed_of_unused (someUnused : ∃ name, name ∈ function.valueNames ∧ name ∉ used) :
    function.checkUsed used = .error (.unusedParameters function.name
      (function.valueNames.filter fun name => !used.contains name)) := by
  have names : (function.valueNames.filter fun name => !used.contains name) =
      (function.values.filter fun parameter => !used.contains parameter.name).map
        ParameterDecl.name :=
    List.filter_map
  have unused : (function.valueNames.filter fun name => !used.contains name) ≠ [] := by
    obtain ⟨name, member, absent⟩ := someUnused
    exact List.ne_nil_of_mem (List.mem_filter.mpr ⟨member, by simpa using absent⟩)
  rw [names] at unused ⊢
  unfold checkUsed
  split
  case h_1 none => exact (unused (congrArg (List.map ParameterDecl.name) none)).elim
  case h_2 => rfl

end FunctionDecl

namespace Scope

variable {scope : Scope} {function : FunctionDecl} {text : String}

theorem placeholderSlot_eq_none_iff {name : String} {isList : Bool} :
    scope.placeholderSlot function name isList = none ↔ name ∉ function.valueNames := by
  simp [placeholderSlot, FunctionDecl.valueNames]

/-- Binding stops at the first name that is not that of a value. -/
theorem bindPlaceholders_of_unknown {pieces : List Segment} {left right : List String}
    {name : String} (names : placeholderNames pieces = left ++ name :: right)
    (known : ∀ other, other ∈ left → other ∈ function.valueNames)
    (unknown : name ∉ function.valueNames) :
    scope.bindPlaceholders function pieces =
      .error (.unknownParameter function.name name) := by
  induction pieces generalizing left with
  | nil => simp [placeholderNames] at names
  | cons piece rest induction =>
      cases piece with
      | text part =>
          rw [bindPlaceholders, induction names known]
          rfl
      | value other isList =>
          have shape : other :: placeholderNames rest = left ++ name :: right := names
          cases left with
          | nil =>
              obtain ⟨rfl, _⟩ := List.cons.inj shape
              simp only [bindPlaceholders, placeholderSlot_eq_none_iff.mpr unknown]
          | cons first left =>
              obtain ⟨rfl, restNames⟩ := List.cons.inj shape
              obtain ⟨firstKnown, leftKnown⟩ := List.forall_mem_cons.mp known
              have found : scope.placeholderSlot function other isList ≠ none :=
                fun none => placeholderSlot_eq_none_iff.mp none firstKnown
              obtain ⟨slot, slotFound⟩ := Option.ne_none_iff_exists'.mp found
              simp only [bindPlaceholders, slotFound, induction restNames leftKnown]
              rfl

theorem bindPlaceholders_of_known (scope : Scope) {pieces : List Segment}
    (known : ∀ name, name ∈ placeholderNames pieces → name ∈ function.valueNames) :
    ∃ bound, scope.bindPlaceholders function pieces = .ok bound :=
  bindPlaceholders_succeeds scope fun name member => List.mem_map.mp (known name member)

/-! ## Bound texts -/

theorem bindText_of_same (same : ∀ name, Mentions text name ↔ name ∈ function.valueNames) :
    ∃ bound, scope.bindText function text = .ok bound := by
  obtain ⟨bound, success⟩ := scope.bindPlaceholders_of_known
    fun name member => (same name).mp (mentions_iff.mpr member)
  have used := FunctionDecl.checkUsed_of_used
    fun name member => mentions_iff.mp ((same name).mpr member)
  refine ⟨bound, ?_⟩
  simp only [bindText, success, used, ok_bind]
  rfl

theorem bindText_of_unknown {left right : List String} {name : String}
    (names : placeholderNames (segments text) = left ++ name :: right)
    (known : ∀ other, other ∈ left → other ∈ function.valueNames)
    (unknown : name ∉ function.valueNames) :
    scope.bindText function text = .error (.unknownParameter function.name name) := by
  rw [bindText, bindPlaceholders_of_unknown names known unknown]
  rfl

theorem bindText_of_unused
    (known : ∀ name, Mentions text name → name ∈ function.valueNames)
    (someUnused : ∃ name, name ∈ function.valueNames ∧ ¬ Mentions text name) :
    scope.bindText function text = .error (.unusedParameters function.name
      (function.valueNames.filter fun name => ¬ Mentions text name)) := by
  obtain ⟨bound, success⟩ := scope.bindPlaceholders_of_known
    fun name member => known name (mentions_iff.mpr member)
  have unbound : ∃ name, name ∈ function.valueNames ∧ name ∉ placeholderNames (segments text) := by
    simpa only [mentions_iff] using someUnused
  have names : (function.valueNames.filter fun name => ¬ Mentions text name) =
      function.valueNames.filter fun name =>
        !(placeholderNames (segments text)).contains name :=
    List.filter_congr fun name _ => by simp [mentions_iff]
  simp only [bindText, success, FunctionDecl.checkUsed_of_unused unbound, names, ok_bind]
  rfl

/-! ## Compiled texts -/

/-- What a function asks for besides its text is accepted: the result that it returns and the
modifiers among its parameters and tags. -/
def Accepts (scope : Scope) (function : FunctionDecl) : Prop :=
  let shape := ReturnShape.of scope.catalog function.returnType
  match scope.archetype function with
  | .finder =>
      (∃ read, scope.rows function shape.row = .ok read) ∧
        ∃ suffix, scope.suffix function shape true = .ok suffix
  | .count | .existence =>
      function.checkValuesOnly = .ok () ∧ ∃ plan, scope.catalog.scalarPlan shape.row = .ok plan
  | .custom =>
      (∃ suffix, scope.suffix function shape false = .ok suffix) ∧
        ∃ plan, scope.customPlan function shape = .ok plan
  | .deleteByEntity | .deleteByFields | .deleteWhere => function.checkValuesOnly = .ok ()
  | .save => True

section

variable (given : (function.tag? TagName.condition).bind Tag.value? = some text)
include given

theorem condition_of_text :
    scope.condition function =
      (fun bound => some (.given bound)) <$> scope.bindText function text := by
  unfold condition
  rw [given]
  exact bind_pure_comp _ _

theorem deleteRows_of_text (archetype : Archetype) :
    ∃ finish, scope.deleteRows function archetype = finish <$> scope.bindText function text := by
  simp only [deleteRows, condition_of_text given, bind_map_left]
  exact ⟨_, bind_pure_comp _ _⟩

theorem findValue_of_text (valuesOnly : function.checkValuesOnly = .ok ()) {plan : ReadPlan}
    (planned : scope.catalog.scalarPlan (ReturnShape.of scope.catalog function.returnType).row =
      .ok plan)
    (archetype : Archetype) (statement : Option Condition → Statement) :
    ∃ finish, scope.findValue function archetype statement =
      finish <$> scope.bindText function text := by
  simp only [findValue, valuesOnly, planned, condition_of_text given, ok_bind, bind_map_left]
  exact ⟨_, bind_pure_comp _ _⟩

end

/-- Where all else is accepted, a function with a given text compiles as its text is bound. -/
theorem draft_of_text (given : scope.givenText? function = some text)
    (accepted : scope.Accepts function) :
    ∃ finish, scope.draft function = finish <$> scope.bindText function text := by
  unfold Accepts at accepted
  unfold draft
  cases kind : scope.archetype function with
  | save => simp [givenText?, kind] at given
  | deleteByEntity => simp [givenText?, kind] at given
  | deleteByFields =>
      simp only [givenText?, kind] at given accepted
      simp only [delete, accepted, ok_bind]
      exact deleteRows_of_text given _
  | deleteWhere =>
      simp only [givenText?, kind] at given accepted
      simp only [delete, accepted, ok_bind]
      exact deleteRows_of_text given _
  | finder =>
      simp only [givenText?, kind] at given accepted
      obtain ⟨⟨⟨columns, plan⟩, rows⟩, suffix, suffixSuccess⟩ := accepted
      simp only [find, rows, suffixSuccess, condition_of_text given, ok_bind, bind_map_left]
      exact ⟨_, bind_pure_comp _ _⟩
  | count =>
      simp only [givenText?, kind] at given accepted
      obtain ⟨valuesOnly, plan, planSuccess⟩ := accepted
      exact findValue_of_text given valuesOnly planSuccess _ _
  | existence =>
      simp only [givenText?, kind] at given accepted
      obtain ⟨valuesOnly, plan, planSuccess⟩ := accepted
      exact findValue_of_text given valuesOnly planSuccess _ _
  | custom =>
      simp only [givenText?, kind] at given accepted
      obtain ⟨⟨suffix, suffixSuccess⟩, plan, planSuccess⟩ := accepted
      obtain ⟨⟨tag, isStatement⟩, found, value⟩ := Option.bind_eq_some_iff.mp given
      simp only [custom, found, value, suffixSuccess, planSuccess, ok_bind, pure_bind]
      exact ⟨_, bind_pure_comp _ _⟩

theorem compile_of_bound {bound : SqlText} (given : scope.givenText? function = some text)
    (accepted : scope.Accepts function) (success : scope.bindText function text = .ok bound) :
    ∃ method, scope.compile function = .ok method := by
  obtain ⟨finish, drafted⟩ := draft_of_text given accepted
  rw [compile, drafted, success]
  exact ⟨_, rfl⟩

theorem compile_of_unbound {fault : CompileError}
    (given : scope.givenText? function = some text) (accepted : scope.Accepts function)
    (failure : scope.bindText function text = .error fault) :
    scope.compile function = .error fault := by
  obtain ⟨finish, drafted⟩ := draft_of_text given accepted
  rw [compile, drafted, failure]
  rfl

end Scope

/-- A function with a given text compiles exactly where the text names all of its value
parameters and nothing else. Otherwise the error is the first placeholder that names none of
them, and where there is none, the value parameters that the text does not name. -/
theorem compile_checks_text {scope : Scope} {function : FunctionDecl} {text : String}
    (given : scope.givenText? function = some text) (accepted : scope.Accepts function) :
    ((∃ method, scope.compile function = .ok method) ↔
      ∀ name, Mentions text name ↔ name ∈ function.valueNames) ∧
    ((∃ name, Mentions text name ∧ name ∉ function.valueNames) →
      ∃ before name, NamedBehind text before name ∧ name ∉ function.valueNames ∧
        (∀ earlier other, NamedBehind text earlier other → earlier.length < before.length →
          other ∈ function.valueNames) ∧
        scope.compile function = .error (.unknownParameter function.name name)) ∧
    ((∀ name, Mentions text name → name ∈ function.valueNames) →
      (∃ name, name ∈ function.valueNames ∧ ¬ Mentions text name) →
      scope.compile function = .error (.unusedParameters function.name
        (function.valueNames.filter fun name => ¬ Mentions text name))) := by
  have unknown : (∃ name, Mentions text name ∧ name ∉ function.valueNames) →
      ∃ before name, NamedBehind text before name ∧ name ∉ function.valueNames ∧
        (∀ earlier other, NamedBehind text earlier other → earlier.length < before.length →
          other ∈ function.valueNames) ∧
        scope.compile function = .error (.unknownParameter function.name name) := by
    intro someUnknown
    obtain ⟨before, name, left, right, named, absent, names, leftKnown, first⟩ :=
      exists_first_place someUnknown
    exact ⟨before, name, named, absent, first,
      Scope.compile_of_unbound given accepted (Scope.bindText_of_unknown names leftKnown absent)⟩
  have unused : (∀ name, Mentions text name → name ∈ function.valueNames) →
      (∃ name, name ∈ function.valueNames ∧ ¬ Mentions text name) →
      scope.compile function = .error (.unusedParameters function.name
        (function.valueNames.filter fun name => ¬ Mentions text name)) :=
    fun known someUnused =>
      Scope.compile_of_unbound given accepted (Scope.bindText_of_unused known someUnused)
  refine ⟨⟨?_, ?_⟩, unknown, unused⟩
  · rintro ⟨method, compiled⟩
    have known : ∀ name, Mentions text name → name ∈ function.valueNames := by
      intro name mentioned
      by_contra absent
      obtain ⟨_, _, _, _, _, failed⟩ := unknown ⟨name, mentioned, absent⟩
      cases failed.symm.trans compiled
    intro name
    refine ⟨known name, fun member => ?_⟩
    by_contra unmentioned
    cases (unused known ⟨name, member, unmentioned⟩).symm.trans compiled
  · intro same
    obtain ⟨bound, success⟩ := Scope.bindText_of_same same
    exact Scope.compile_of_bound given accepted success

namespace Car

def betweenText : String :=
  "power >= :least AND note <> ':most'"

/-- Finds cars by a text in which the greatest power stands in a quoted run. -/
def findBetween : FunctionDecl where
  name := "find_between"
  parameters := [⟨"least", .named "i32", []⟩, ⟨"most", .named "i32", []⟩]
  returnType := .named "Vec" [{ target := entity }]
  tags := [.valued TagName.condition betweenText]

theorem findBetween_accepted : scope.Accepts findBetween :=
  ⟨⟨_, rfl⟩, _, rfl⟩

end Car

/-- A parameter that only a quoted run names is reported. -/
theorem compile_checks_text_car :
    Car.scope.givenText? Car.findBetween = some Car.betweenText ∧
      Car.scope.Accepts Car.findBetween ∧
      Car.scope.compile Car.findBetween = .error (.unusedParameters "find_between" ["most"]) := by
  have given : Car.scope.givenText? Car.findBetween = some Car.betweenText := rfl
  have known : ∀ name, Mentions Car.betweenText name → name ∈ Car.findBetween.valueNames := by
    have names : placeholderNames (segments Car.betweenText) = ["least"] := by decide
    intro name mentioned
    rw [mentions_iff, names, List.mem_singleton] at mentioned
    rw [mentioned]
    decide
  have unused : (Car.findBetween.valueNames.filter
      fun name => ¬ Mentions Car.betweenText name) = ["most"] := by decide
  have reported := (compile_checks_text given Car.findBetween_accepted).2.2 known
    ⟨"most", by decide, by decide⟩
  rw [unused] at reported
  exact ⟨given, Car.findBetween_accepted, reported⟩

end RowPlan
