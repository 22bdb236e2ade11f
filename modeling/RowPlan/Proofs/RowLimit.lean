import RowPlan.Proofs.Numerals
import RowPlan.Proofs.ValueSlots

/-!
# Limits on rows

A function says in at most one way how many rows it returns. The query ends with one clause
for that, or for the cap of a query for a single row, and the slots of the clause are bound
after those for the values.
-/

namespace RowPlan

/-- The ways for a function to say how many rows it returns. -/
inductive LimitSource where
  | tag
  | parameter
  | first
  | page

namespace FunctionDecl

/-- A function says in some way how many rows it returns. A parameter has one role: a limit
tag on a page request or an order makes it no limit. -/
def Declares (function : FunctionDecl) : LimitSource → Prop
  | .tag => function.has TagName.limit = true
  | .parameter => ∃ parameter, parameter ∈ function.parameters ∧ parameter.role = .limit
  | .first => function.has TagName.first = true
  | .page => ∃ parameter, parameter ∈ function.parameters ∧ parameter.role = .pageable

/-- What a function says about the number of rows contradicts itself or the shape of the
result. -/
inductive LimitConflict (function : FunctionDecl) (shape : ReturnShape) : Prop where
  | sources {source other : LimitSource} :
      source ≠ other → function.Declares source → function.Declares other →
      LimitConflict function shape
  | first : function.Declares .first → shape.isMany = true → LimitConflict function shape
  | unpaged : ¬ function.Declares .page → shape.isPage = true → LimitConflict function shape
  | page : function.Declares .page → shape.isPage = false → LimitConflict function shape

/-- The sort clause of a query, or the marker that is replaced by one. -/
def sortText (function : FunctionDecl) : String :=
  match (function.parametersOf .order).head? with
  | some _ => " %orderBy"
  | none =>
      match (function.tag? TagName.orderBy).bind Tag.value? with
      | some keys => " ORDER BY " ++ keys
      | none => ""

end FunctionDecl

/-- The clause that limits the rows of a query. -/
inductive LimitClause where
  | number (rows : Nat)
  | bound (slot : BindSlot)
  | page (pageable : String)

namespace LimitClause

/-- The clause after a number of slots. -/
def text (style : MarkerStyle) (before : Nat) : LimitClause → String
  | number rows => " LIMIT " ++ toString rows
  | bound _ => " LIMIT " ++ style.marker (before + 1)
  | page _ => " LIMIT " ++ style.marker (before + 1) ++ " OFFSET " ++ style.marker (before + 2)

def slots : LimitClause → List BindSlot
  | number _ => []
  | bound slot => [slot]
  | page pageable =>
      [{ path := [pageable, "limit"], type := .named "i64", columnType := some .bigInt },
        { path := [pageable, "offset"], type := .named "i64", columnType := some .bigInt }]

end LimitClause

/-- The limit that a source asks for. -/
inductive Scope.LimitOf (scope : Scope) (function : FunctionDecl) :
    LimitSource → LimitClause → Prop where
  | tag {tag : Tag} {value : String} {rows : Nat} :
      function.tag? TagName.limit = some tag → tag.value? = some value →
      IsNumeral (trim value.toList) rows →
      LimitOf scope function .tag (.number rows)
  | parameter {parameter : ParameterDecl} :
      (function.parametersOf .limit).head? = some parameter →
      LimitOf scope function .parameter
        (.bound
          { path := [parameter.name]
            type := parameter.type
            columnType := (scope.catalog.resolve parameter.type).map KnownType.columnType })
  | first : LimitOf scope function .first (.number 1)
  | page {parameter : ParameterDecl} :
      (function.parametersOf .pageable).head? = some parameter →
      LimitOf scope function .page (.page parameter.name)

/-- The limit of a query. There is one exactly where a source is declared, and then it is that
of the source, or where a finder has a single row to find. -/
structure Scope.Limited (scope : Scope) (function : FunctionDecl) (shape : ReturnShape)
    (clause : Option LimitClause) : Prop where
  present : clause.isSome = true ↔
    (scope.archetype function = .finder ∧ shape.isMany = false) ∨
      ∃ source, function.Declares source
  source : ∀ source, function.Declares source →
    ∃ limit, clause = some limit ∧ scope.LimitOf function source limit
  page : function.Declares .page ↔ shape.isPage = true
  cap : (∀ source, ¬ function.Declares source) → clause.isSome = true →
    clause = some (.number scope.options.singleResultCap.toNat)

/-- A query ends with at most one limit clause, after the sort clause, and binds its slots
after those for the values. -/
structure Scope.LimitsRows (scope : Scope) (function : FunctionDecl) (method : Method)
    (head : SqlText) (clause : Option LimitClause) : Prop where
  asks : scope.QueryHead function head method.plan
  sql : method.sql =
    SqlText.written scope.options.markers {} head ++ function.sortText ++
      (clause.map (LimitClause.text scope.options.markers
        (SqlText.bindAll scope.options.markers {} head).slots.length)).getD ""
  slots : method.slots =
    (SqlText.bindAll scope.options.markers {} head).slots ++
      (clause.map LimitClause.slots).getD []
  values : ∀ path,
    path ∈ (SqlText.bindAll scope.options.markers {} head).slots.map BindSlot.path ↔
      path ∈ function.values.map fun parameter => [parameter.name]
  limited : scope.Limited function (ReturnShape.of scope.catalog function.returnType) clause

/-! ## The clauses of a suffix -/

namespace Suffix

variable {suffix : Suffix}

/-- The limit of a suffix, which may be that of a page. -/
def limitClause? (suffix : Suffix) : Option LimitClause :=
  match suffix.limit, suffix.pageable with
  | some (.literal rows), _ => some (.number rows)
  | some (.bound slot), _ => some (.bound slot)
  | some .first, _ => some (.number 1)
  | some (.cap rows), _ => some (.number rows)
  | none, some pageable => some (.page pageable)
  | none, none => none

theorem limit_of_page {pageable : String}
    (found : suffix.limitClause? = some (.page pageable)) : suffix.limit = none := by
  unfold limitClause? at found
  split at found
  case h_5 absent _ => exact absent
  all_goals cases found

theorem written_limits (apart : suffix.pageable.isSome = true → suffix.limit = none)
    (style : MarkerStyle) (binding : Binding) :
    SqlText.written style binding (suffix.limitClause ++ suffix.pageClause) =
        (suffix.limitClause?.map (LimitClause.text style binding.slots.length)).getD "" ∧
      (SqlText.bindAll style binding (suffix.limitClause ++ suffix.pageClause)).slots =
        binding.slots ++ (suffix.limitClause?.map LimitClause.slots).getD [] := by
  obtain ⟨orderBy, orderParameter, limit, pageable⟩ := suffix
  cases pageable with
  | some pageable =>
      obtain rfl : limit = none := apart rfl
      constructor
      · simp [limitClause, pageClause, limitClause?, LimitClause.text,
          Binding.numberFor_none, Binding.bind_none, String.append_assoc]
      · simp [limitClause, pageClause, pageSlot, limitClause?, LimitClause.slots,
          SqlText.bindAll, Binding.bind_none]
  | none =>
      cases limit with
      | none => simp [limitClause, pageClause, limitClause?, SqlText.bindAll]
      | some limit =>
          cases limit with
          | literal rows =>
              exact ⟨SqlText.written_single style binding _, (List.append_nil _).symm⟩
          | bound slot =>
              simp [limitClause, pageClause, limitClause?, LimitClause.text,
                LimitClause.slots, SqlText.bindAll, Binding.numberFor_none, Binding.bind_none]
          | first => exact ⟨SqlText.written_single style binding _, (List.append_nil _).symm⟩
          | cap rows =>
              exact ⟨SqlText.written_single style binding _, (List.append_nil _).symm⟩

end Suffix

/-! ## The sources of a limit -/

section

variable {scope : Scope} {function : FunctionDecl} {shape : ReturnShape} {capped : Bool}
  {suffix : Suffix}

theorem FunctionDecl.isSome_head?_parametersOf (function : FunctionDecl) (role : Role) :
    (function.parametersOf role).head?.isSome = true ↔
      ∃ parameter, parameter ∈ function.parameters ∧ parameter.role = role := by
  rw [List.isSome_head?, parametersOf]
  simp [List.filter_eq_nil_iff]

theorem FunctionDecl.head?_parametersOf_eq_none {role : Role}
    (absent : ¬ ∃ parameter, parameter ∈ function.parameters ∧ parameter.role = role) :
    (function.parametersOf role).head? = none := by
  simpa using mt (function.isSome_head?_parametersOf role).mp absent

theorem FunctionDecl.isSome_of_literalLimit {literal : Option Nat}
    (read : function.literalLimit = .ok literal) :
    literal.isSome = true ↔ function.Declares .tag := by
  have tagged : function.has TagName.limit = (function.tag? TagName.limit).isSome := rfl
  unfold literalLimit at read
  rw [Declares, tagged]
  split at read
  case h_1 absent =>
    cases read
    simp [absent]
  case h_2 tag found =>
    dsimp only at read
    split at read
    · cases read
      simp [found]
    · cases read

theorem FunctionDecl.tag_of_literalLimit {rows : Nat}
    (read : function.literalLimit = .ok (some rows)) :
    ∃ tag value, function.tag? TagName.limit = some tag ∧ tag.value? = some value ∧
      IsNumeral (trim value.toList) rows := by
  unfold literalLimit at read
  split at read
  case h_1 => cases read
  case h_2 tag found =>
    cases given : tag.value? with
    | none =>
        rw [given] at read
        cases read
    | some value =>
        simp only [given, Option.getD_some] at read
        split at read
        case h_1 number numeral =>
          cases read
          exact ⟨tag, value, found, given, isNumeral_of_readNumeral numeral⟩
        case h_2 => cases read

/-- No two sources are counted. -/
theorem limitSources_alone : ∀ tag parameter first page : Bool,
    (limitSources tag parameter first page).length ≤ 1 →
      (tag = true → parameter = false ∧ first = false ∧ page = false) ∧
        (parameter = true → first = false ∧ page = false) ∧ (first = true → page = false) := by
  decide

namespace Scope

/-- No two sources are declared. -/
theorem sources_alone (success : scope.suffix function shape capped = .ok suffix) :
    ∀ source other, function.Declares source → function.Declares other → source = other := by
  obtain ⟨_, _, literal, read, few, _⟩ := suffix_parts success
  have tag := FunctionDecl.isSome_of_literalLimit read
  have parameter : _ ↔ function.Declares .parameter :=
    function.isSome_head?_parametersOf .limit
  have first : function.has TagName.first = true ↔ function.Declares .first := Iff.rfl
  have page : _ ↔ function.Declares .page :=
    function.isSome_head?_parametersOf .pageable
  rw [Option.isSome_map] at few
  obtain ⟨tagAlone, parameterAlone, firstAlone⟩ := limitSources_alone _ _ _ _ few
  intro source other here there
  cases source <;> cases other <;> grind

/-- Where a source is declared, the limit of the suffix is the one that it asks for. -/
theorem limitClause?_of_declared (success : scope.suffix function shape capped = .ok suffix)
    {source : LimitSource} (declared : function.Declares source) :
    ∃ limit, suffix.limitClause? = some limit ∧ scope.LimitOf function source limit := by
  -- Limits are read in a fixed order, so every source before this one has to be absent.
  have others : ∀ other, other ≠ source → ¬ function.Declares other :=
    fun other different also => different (sources_alone success other source also declared)
  obtain ⟨_, _, literal, read, _, rfl⟩ := suffix_parts success
  have tag := FunctionDecl.isSome_of_literalLimit read
  have untagged : .tag ≠ source → literal = none := by
    intro different
    simpa using mt tag.mp (others .tag different)
  have unbound : .parameter ≠ source → (function.parametersOf .limit).head? = none :=
    fun different => FunctionDecl.head?_parametersOf_eq_none (others .parameter different)
  cases source with
  | tag =>
      obtain ⟨rows, rfl⟩ := Option.isSome_iff_exists.mp (tag.mpr declared)
      obtain ⟨tag, value, found, given, numeral⟩ := FunctionDecl.tag_of_literalLimit read
      exact ⟨_, rfl, .tag found given numeral⟩
  | parameter =>
      obtain rfl := untagged nofun
      obtain ⟨parameter, found⟩ :=
        Option.isSome_iff_exists.mp ((function.isSome_head?_parametersOf _).mpr declared)
      refine ⟨_, ?_, .parameter found⟩
      simp [Suffix.limitClause?, limitAfter, limitSlot, found]
  | first =>
      obtain rfl := untagged nofun
      have isFirst : function.has TagName.first = true := declared
      refine ⟨_, ?_, .first⟩
      simp [Suffix.limitClause?, limitAfter, unbound nofun, isFirst]
  | page =>
      obtain rfl := untagged nofun
      obtain ⟨parameter, found⟩ :=
        Option.isSome_iff_exists.mp ((function.isSome_head?_parametersOf _).mpr declared)
      have notFirst : ¬ function.has TagName.first = true := others .first nofun
      refine ⟨_, ?_, .page found⟩
      simp [Suffix.limitClause?, limitAfter, unbound nofun, notFirst, found]

/-- Where no source is declared, the suffix has a cap if one is asked for. -/
theorem limitClause?_of_undeclared (success : scope.suffix function shape capped = .ok suffix)
    (undeclared : ∀ source, ¬ function.Declares source) :
    suffix.limitClause? =
      if capped && !shape.isMany then some (.number scope.options.singleResultCap.toNat)
      else none := by
  obtain ⟨_, _, literal, read, _, rfl⟩ := suffix_parts success
  obtain rfl : literal = none := by
    simpa using mt (FunctionDecl.isSome_of_literalLimit read).mp (undeclared .tag)
  have unbound : (function.parametersOf .limit).head? = none :=
    FunctionDecl.head?_parametersOf_eq_none (undeclared .parameter)
  have unpaged : (function.parametersOf .pageable).head? = none :=
    FunctionDecl.head?_parametersOf_eq_none (undeclared .page)
  have notFirst : ¬ function.has TagName.first = true := undeclared .first
  simp only [Suffix.limitClause?, limitAfter, unbound, unpaged, notFirst, Option.map_none,
    Option.isNone_none, Bool.and_true, Bool.false_eq_true, if_false]
  cases capped && !shape.isMany with
  | true => rfl
  | false => rfl

/-- A suffix for a page has no other limit. -/
theorem limit_of_pageable (success : scope.suffix function shape capped = .ok suffix)
    (paged : suffix.pageable.isSome = true) : suffix.limit = none := by
  have declared : function.Declares .page := by
    obtain ⟨_, _, _, _, _, rfl⟩ := suffix_parts success
    rw [Option.isSome_map] at paged
    exact (function.isSome_head?_parametersOf _).mp paged
  obtain ⟨limit, found, ofPage⟩ := limitClause?_of_declared success declared
  cases ofPage
  exact Suffix.limit_of_page found

theorem declares_page_iff (success : scope.suffix function shape capped = .ok suffix) :
    function.Declares .page ↔ shape.isPage = true := by
  obtain ⟨paged, _⟩ := suffix_parts success
  rw [Option.isSome_map] at paged
  rw [← paged]
  exact (function.isSome_head?_parametersOf _).symm

theorem agrees_of_suffix (success : scope.suffix function shape capped = .ok suffix) :
    ¬ function.LimitConflict shape := by
  obtain ⟨_, single, _⟩ := suffix_parts success
  have page := declares_page_iff success
  intro conflict
  cases conflict with
  | sources different here there => exact different (sources_alone success _ _ here there)
  | first first many =>
      have declared : function.has TagName.first = true := first
      rw [declared, many] at single
      cases single
  | unpaged unpaged isPage => exact unpaged (page.mpr isPage)
  | page declared unpaged =>
      rw [page.mp declared] at unpaged
      cases unpaged

theorem limited_of_suffix
    (success : scope.suffix function shape (scope.archetype function == .finder) =
      .ok suffix) :
    scope.Limited function shape suffix.limitClause? where
  present := by
    by_cases declared : ∃ source, function.Declares source
    · obtain ⟨source, declares⟩ := declared
      obtain ⟨limit, found, _⟩ := limitClause?_of_declared success declares
      rw [found]
      exact ⟨fun _ => .inr ⟨source, declares⟩, fun _ => rfl⟩
    · have undeclared := limitClause?_of_undeclared success (not_exists.mp declared)
      simp [undeclared, declared]
  source source declared := limitClause?_of_declared success declared
  page := declares_page_iff success
  cap undeclared present := by
    rw [limitClause?_of_undeclared success undeclared] at present ⊢
    split at present
    case isTrue capped => exact if_pos capped
    case isFalse => cases present

theorem sortText_of_suffix (success : scope.suffix function shape capped = .ok suffix) :
    (if suffix.orderParameter.isSome then " " ++ orderMarker
      else (suffix.orderBy.map fun keys => " ORDER BY " ++ keys).getD "") =
      function.sortText := by
  obtain ⟨_, _, _, _, _, rfl⟩ := suffix_parts success
  unfold FunctionDecl.sortText
  cases (function.parametersOf .order).head? with
  | some parameter => rfl
  | none =>
      cases (function.tag? TagName.orderBy).bind Tag.value? with
      | none => rfl
      | some keys => rfl

theorem Queries.limitsRows {draft : Draft} {head : SqlText}
    (queries : scope.Queries function draft head suffix) :
    scope.LimitsRows function (draft.finish scope.options scope.table) head
      suffix.limitClause? := by
  obtain ⟨asks, ends, text, _, _⟩ := queries
  -- The sort clause binds nothing, so the markers of the limit are counted from the head.
  obtain ⟨sorted, unbound⟩ := suffix.written_orderClause scope.options.markers
    (SqlText.bindAll scope.options.markers {} head)
  obtain ⟨limits, bound⟩ := Suffix.written_limits (limit_of_pageable ends) scope.options.markers
    (SqlText.bindAll scope.options.markers {} head)
  refine ⟨asks, ?_, ?_, asks.bindsValues.bindAll scope.options.markers,
    limited_of_suffix ends⟩
  · rw [Draft.finish_sql, text, Suffix.text, List.append_assoc, SqlText.written_append,
      SqlText.written_append, sorted, unbound, limits, sortText_of_suffix ends,
      String.append_assoc]
  · rw [Draft.finish_slots, text, Suffix.text, List.append_assoc, SqlText.bindAll_append,
      SqlText.bindAll_append, unbound, bound]

end Scope

end

/-- A query has at most one limit clause, at the end of its text and with the last slots. It
is refused where what its function says about the number of rows is contradictory. -/
theorem compile_limits_rows {scope : Scope} {function : FunctionDecl}
    (kind : scope.archetype function ∈ Scope.queryKinds) :
    (∀ method, scope.compile function = .ok method →
      ∃ head clause, scope.LimitsRows function method head clause) ∧
    (function.LimitConflict (ReturnShape.of scope.catalog function.returnType) →
      ∃ fault, scope.compile function = .error fault) := by
  have limits : ∀ method, scope.compile function = .ok method →
      ∃ head suffix draft, scope.Queries function draft head suffix ∧
        draft.finish scope.options scope.table = method := by
    intro method compiled
    obtain ⟨draft, success, finished⟩ := Scope.compile_eq_ok_iff.mp compiled
    obtain ⟨head, suffix, queries⟩ := (Scope.drafted_of_draft success).queries kind
    exact ⟨head, suffix, draft, queries, finished⟩
  constructor
  · intro method compiled
    obtain ⟨head, suffix, draft, queries, rfl⟩ := limits method compiled
    exact ⟨head, suffix.limitClause?, queries.limitsRows⟩
  · intro conflict
    cases compiled : scope.compile function with
    | error fault => exact ⟨fault, rfl⟩
    | ok method =>
        obtain ⟨_, _, _, queries, _⟩ := limits method compiled
        exact (Scope.agrees_of_suffix queries.ends conflict).elim

namespace Car

/-- A page of the cars of a power, in an order that the caller chooses. -/
def findPage : FunctionDecl where
  name := "find_page"
  parameters := [⟨"page", .named "Pageable", []⟩, ⟨"order", .named "Order", []⟩,
    ⟨"power", .named "i32", []⟩]
  returnType := .named "Page" [{ target := entity }]

/-- As many cars of a power as the caller chooses. -/
def findSome : FunctionDecl where
  name := "find_some"
  parameters := [⟨"most", .named "i64", [⟨TagName.limit, []⟩]⟩, ⟨"power", .named "i32", []⟩]
  returnType := .named "Vec" [{ target := entity }]

/-- A page that is to hold five cars besides. -/
def findFive : FunctionDecl :=
  { findPage with tags := [.valued TagName.limit "5"] }

/-- The strongest car. -/
def findStrongest : FunctionDecl where
  name := "find_strongest"
  parameters := []
  returnType := { target := entity }
  tags := [⟨TagName.first, []⟩, .valued TagName.orderBy "\"power\" DESC"]

/-- All cars of a power. -/
def listAll : FunctionDecl where
  name := "list_all"
  parameters := [⟨"power", .named "i32", []⟩]
  returnType := .named "Vec" [{ target := entity }]

/-- The first of the cars of a power, as a list. -/
def findFirsts : FunctionDecl :=
  { listAll with tags := [⟨TagName.first, []⟩] }

/-- Five cars above a power, by a given text. -/
def queryFive : FunctionDecl where
  name := "query_five"
  parameters := [⟨"least", .named "i32", []⟩]
  returnType := .named "Vec" [{ target := entity }]
  tags := [.valued TagName.query "SELECT * FROM car WHERE power > :least",
    .valued TagName.limit "5"]

/-- A function has a query that limits its rows, with a text and the paths of its slots. -/
def QueriesRows (function : FunctionDecl) (sql : String) (paths : List (List String)) : Prop :=
  scope.archetype function ∈ Scope.queryKinds ∧
    ∃ method head clause, scope.compile function = .ok method ∧
      scope.LimitsRows function method head clause ∧ method.sql = sql ∧
      method.slots.map BindSlot.path = paths

/-- A function is a query whose limits contradict each other, and is refused. -/
def RefusesLimits (function : FunctionDecl) : Prop :=
  scope.archetype function ∈ Scope.queryKinds ∧
    function.LimitConflict (ReturnShape.of scope.catalog function.returnType) ∧
    ∃ fault, scope.compile function = .error fault

end Car

/-- The limit and the offset are bound after the power, wherever the page is declared, and so
is a limit that is a parameter. A page takes no other limit, and the first row is no list. -/
theorem compile_limits_rows_car :
    Car.QueriesRows Car.findPage
      ("SELECT \"id\", \"power\", \"revision\" FROM \"car\" " ++
        "WHERE \"power\" = ? %orderBy LIMIT ? OFFSET ?")
      [["power"], ["page", "limit"], ["page", "offset"]] ∧
    Car.QueriesRows Car.findSome
      "SELECT \"id\", \"power\", \"revision\" FROM \"car\" WHERE \"power\" = ? LIMIT ?"
      [["power"], ["most"]] ∧
    Car.QueriesRows Car.findStrongest
      ("SELECT \"id\", \"power\", \"revision\" FROM \"car\" " ++
        "ORDER BY \"power\" DESC LIMIT 1") [] ∧
    Car.QueriesRows Car.listAll
      "SELECT \"id\", \"power\", \"revision\" FROM \"car\" WHERE \"power\" = ?"
      [["power"]] ∧
    Car.QueriesRows Car.queryFive "SELECT * FROM car WHERE power > ? LIMIT 5" [["least"]] ∧
    Car.RefusesLimits Car.findFive ∧ Car.RefusesLimits Car.findFirsts := by
  have finder : ∀ function, Car.scope.archetype function = .finder →
      Car.scope.archetype function ∈ Scope.queryKinds := by
    intro function finder
    rw [finder]
    decide
  have custom : Car.scope.archetype Car.queryFive ∈ Scope.queryKinds := by
    have kind : Car.scope.archetype Car.queryFive = .custom := rfl
    rw [kind]
    decide
  have queries : ∀ function sql paths, Car.scope.archetype function ∈ Scope.queryKinds →
      (∃ method, Car.scope.compile function = .ok method ∧ method.sql = sql ∧
        method.slots.map BindSlot.path = paths) →
      Car.QueriesRows function sql paths := by
    rintro function _ _ kind ⟨method, compiled, rfl, rfl⟩
    obtain ⟨head, clause, limits⟩ := (compile_limits_rows kind).1 method compiled
    exact ⟨kind, method, head, clause, compiled, limits, rfl, rfl⟩
  have refuses : ∀ function, Car.scope.archetype function ∈ Scope.queryKinds →
      function.LimitConflict (ReturnShape.of Car.scope.catalog function.returnType) →
      Car.RefusesLimits function :=
    fun _ kind conflict => ⟨kind, conflict, (compile_limits_rows kind).2 conflict⟩
  refine ⟨queries _ _ _ (finder _ rfl) ⟨_, rfl, rfl, rfl⟩,
    queries _ _ _ (finder _ rfl) ⟨_, rfl, rfl, rfl⟩,
    queries _ _ _ (finder _ rfl) ⟨_, rfl, rfl, rfl⟩,
    queries _ _ _ (finder _ rfl) ⟨_, rfl, rfl, rfl⟩,
    queries _ _ _ custom ⟨_, rfl, rfl, rfl⟩,
    refuses _ (finder _ rfl) ?_, refuses _ (finder _ rfl) (.first rfl rfl)⟩
  exact @FunctionDecl.LimitConflict.sources _ _ .tag .page nofun rfl ⟨_, List.mem_cons_self, rfl⟩

end RowPlan
