import RowPlan.Proofs.FieldFaults
import RowPlan.Proofs.IdentityProjection

/-!
# Fields bound to columns

A field of a projection is bound to the column of its path, or else to the only column whose
path ends with it. Nothing is guessed: the first field for which there is no such column, or
more than one, is the error.
-/

namespace RowPlan

/-! ## Columns for a path -/

/-- The columns whose path ends with some names. -/
def columnsEnding (columns : List Column) (path : List String) : List Column :=
  columns.filter fun column => path.isSuffixOf column.path

/-- A column is meant by a path: it has the path, or else no column has and it is the only one
whose path ends with it. -/
inductive Meant (columns : List Column) (path : List String) (column : Column) : Prop where
  | exactly : column ∈ columns → column.path = path → Meant columns path column
  | ending :
      (∀ other, other ∈ columns → other.path ≠ path) → columnsEnding columns path = [column] →
      Meant columns path column

mutual

/-- The places below a path that the fields of a class are bound at, in the order of the
declarations. -/
def boundPlacesBelow (columns : List Column) (path : List String) : ClassDecl → List FieldPlace
  | { fields, .. } => boundPlaces columns path fields

/-- The places of some fields. Where no path of a column ends with that of a value object, its
own fields are bound instead. -/
def boundPlaces (columns : List Column) (path : List String) : List FieldDecl → List FieldPlace
  | [] => []
  | ⟨name, ⟨target, nullable, arguments⟩, tags⟩ :: rest =>
      let here := path ++ [name]
      let below :=
        if (columnsEnding columns here).isEmpty && target.isComposite then
          boundPlacesBelow columns here target
        else []
      ⟨here, ⟨name, ⟨target, nullable, arguments⟩, tags⟩⟩ :: below ++
        boundPlaces columns path rest

end

/-- A place can be bound: to a column, or as a value object to those of its own fields. -/
def FieldPlace.Bindable (columns : List Column) (place : FieldPlace) : Prop :=
  (∃ column, Meant columns place.path column) ∨
    columnsEnding columns place.path = [] ∧ place.field.type.target.isComposite = true

/-- What is wrong with a place that cannot be bound: no column, or several of which none has
the very path. -/
inductive FieldPlace.Unbindable (columns : List Column) (function : String)
    (place : FieldPlace) : CompileError → Prop where
  | unknown :
      columnsEnding columns place.path = [] → place.field.type.target.isComposite = false →
      Unbindable columns function place
        (.unknownProjectionField function (".".intercalate place.path))
  | ambiguous :
      (∀ column, column ∈ columns → column.path ≠ place.path) →
      2 ≤ (columnsEnding columns place.path).length →
      Unbindable columns function place
        (.ambiguousColumn function (".".intercalate place.path)
          ((columnsEnding columns place.path).map Column.name))

/-- The error of a projection for a field that is not bound. -/
def Unbound.fault (function : String) : Unbound → CompileError
  | missing path => .unknownProjectionField function (dotted path)
  | ambiguous path candidates => .ambiguousColumn function (dotted path) candidates

mutual

/-- The values that a plan below a path reads, each with the names that lead to its field. -/
def ReadPlan.readsAt (path : List String) : ReadPlan → List (List String × Extractor)
  | .build field _ parts => ReadPlan.readsOfPartsAt (path ++ field.toList) parts
  | .read extractor => [(path ++ extractor.field.toList, extractor)]

/-- The values that several plans below a path read. -/
def ReadPlan.readsOfPartsAt (path : List String) :
    List ReadPlan → List (List String × Extractor)
  | [] => []
  | part :: rest => part.readsAt path ++ ReadPlan.readsOfPartsAt path rest

end

/-! ## Looking for columns -/

section

variable {columns : List Column} {path : List String}

theorem mem_columnsEnding {column : Column} :
    column ∈ columnsEnding columns path ↔ column ∈ columns ∧ path <:+ column.path := by
  simp [columnsEnding]

theorem Meant.mem_columnsEnding {column : Column} (meant : Meant columns path column) :
    column ∈ columnsEnding columns path := by
  cases meant with
  | exactly member same => exact RowPlan.mem_columnsEnding.mpr ⟨member, same ▸ List.suffix_rfl⟩
  | ending _ only => exact only ▸ List.mem_singleton_self column

namespace Catalog

theorem columnsMatching_of_mem (paths : (columns.map Column.path).Nodup) {column : Column}
    (member : column ∈ columns) : columnsMatching columns column.path = [column] := by
  rw [columnsMatching, exactColumns_of_mem paths member]

theorem columnsMatching_of_none (proper : path ≠ [])
    (none : ∀ column, column ∈ columns → column.path ≠ path) :
    columnsMatching columns path = columnsEnding columns path := by
  have noExact : exactColumns columns path = [] := by
    simpa only [exactColumns, List.filter_eq_nil_iff, beq_iff_eq] using none
  have ends : ∀ column : Column, column.endsWith path = path.isSuffixOf column.path := by
    simp [Column.endsWith, proper]
  simp only [columnsMatching, noExact, columnsEnding, ends]

/-- A path is looked for exactly, or else at the ends of paths. -/
theorem columnsMatching_cases (paths : (columns.map Column.path).Nodup) (proper : path ≠ []) :
    (∃ column, column ∈ columns ∧ column.path = path ∧
        columnsMatching columns path = [column]) ∨
      (∀ column, column ∈ columns → column.path ≠ path) ∧
        columnsMatching columns path = columnsEnding columns path := by
  by_cases found : ∃ column, column ∈ columns ∧ column.path = path
  · obtain ⟨column, member, rfl⟩ := found
    exact .inl ⟨column, member, rfl, columnsMatching_of_mem paths member⟩
  · have none : ∀ column, column ∈ columns → column.path ≠ path :=
      fun column member same => found ⟨column, member, same⟩
    exact .inr ⟨none, columnsMatching_of_none proper none⟩

theorem meant_iff (paths : (columns.map Column.path).Nodup) (proper : path ≠ [])
    {column : Column} : Meant columns path column ↔ columnsMatching columns path = [column] := by
  constructor
  · rintro (⟨member, rfl⟩ | ⟨none, only⟩)
    · exact columnsMatching_of_mem paths member
    · rw [columnsMatching_of_none proper none, only]
  · intro matching
    rcases columnsMatching_cases paths proper with ⟨other, member, exactly, found⟩ | ⟨none, found⟩
    · obtain rfl := List.singleton_inj.mp (matching.symm.trans found)
      exact .exactly member exactly
    · exact .ending none (found.symm.trans matching)

theorem columnsEnding_eq_nil_iff (proper : path ≠ []) :
    columnsEnding columns path = [] ↔ columnsMatching columns path = [] := by
  rw [columnsMatching_eq_nil_iff proper]
  simp [columnsEnding]

end Catalog

end

/-! ## Columns that are read -/

mutual

theorem ReadPlan.columns_eq (path : List String) (plan : ReadPlan) :
    plan.columns = (plan.readsAt path).filterMap fun read => read.2.column := by
  cases plan with
  | build field target parts => exact ReadPlan.columnsOfParts_eq _ parts
  | read extractor =>
      rw [ReadPlan.columns, ReadPlan.readsAt]
      cases found : extractor.column with
      | none => simp [found]
      | some name => simp [found]

theorem ReadPlan.columnsOfParts_eq (path : List String) (parts : List ReadPlan) :
    ReadPlan.columnsOfParts parts =
      (ReadPlan.readsOfPartsAt path parts).filterMap fun read => read.2.column := by
  match parts with
  | [] => rfl
  | part :: rest =>
      rw [ReadPlan.columnsOfParts, ReadPlan.readsOfPartsAt, List.filterMap_append,
        ← ReadPlan.columns_eq path part, ← ReadPlan.columnsOfParts_eq path rest]

end

/-! ## Binding by places -/

mutual

theorem ne_nil_of_boundPlacesBelow (columns : List Column) (path : List String)
    (cls : ClassDecl) :
    ∀ place, place ∈ boundPlacesBelow columns path cls → place.path ≠ [] := by
  cases cls
  exact ne_nil_of_boundPlaces columns path _

theorem ne_nil_of_boundPlaces (columns : List Column) (path : List String)
    (fields : List FieldDecl) :
    ∀ place, place ∈ boundPlaces columns path fields → place.path ≠ [] := by
  match fields with
  | [] => exact nofun
  | ⟨name, ⟨target, nullable, arguments⟩, tags⟩ :: rest =>
      have below := ne_nil_of_boundPlacesBelow columns (path ++ [name]) target
      have others := ne_nil_of_boundPlaces columns path rest
      rw [boundPlaces, List.cons_append, List.forall_mem_cons]
      refine ⟨by simp, fun place member => ?_⟩
      rcases List.mem_append.mp member with inside | later
      · split at inside
        · exact below place inside
        · cases inside
      · exact others place later

end

namespace Catalog

/-- What a place adds to the values that are read. -/
def bindPlace (catalog : Catalog) (columns : List Column) (place : FieldPlace) :
    Except Unbound (List (List String × Extractor)) :=
  match columnsMatching columns place.path with
  | [column] =>
      .ok [(place.path, catalog.extractor column place.field.name place.field.type)]
  | [] =>
      if place.field.type.target.isComposite then .ok [] else .error (.missing place.path)
  | several => .error (.ambiguous place.path (several.map Column.name))

theorem map_readsAt_plan (catalog : Catalog) (resolve : List String → List Column)
    (path : List String) (name : String) (cls : ClassDecl) :
    (catalog.plan resolve (some name) (path ++ [name]) cls).map (ReadPlan.readsAt path) =
      (catalog.planFields resolve (path ++ [name]) cls.fields).map
        (ReadPlan.readsOfPartsAt (path ++ [name])) := by
  cases cls
  rw [plan]
  cases catalog.planFields resolve (path ++ [name]) _ with
  | error unbound => rfl
  | ok parts => rfl

theorem map_readsOfPartsAt (path : List String) (own : Except Unbound ReadPlan)
    (others : Except Unbound (List ReadPlan)) :
    Except.map (ReadPlan.readsOfPartsAt path) (do return (← own) :: (← others)) =
      (do return (← own.map (ReadPlan.readsAt path)) ++
        (← others.map (ReadPlan.readsOfPartsAt path))) := by
  cases own with
  | error unbound => rfl
  | ok part =>
      cases others with
      | error unbound => rfl
      | ok parts => rfl

mutual

theorem readsBelow_eq (catalog : Catalog) (columns : List Column) (path : List String)
    (cls : ClassDecl) :
    (catalog.planFields (columnsMatching columns) path cls.fields).map
        (ReadPlan.readsOfPartsAt path) =
      gather (catalog.bindPlace columns) (boundPlacesBelow columns path cls) := by
  cases cls
  exact readsOfFields_eq catalog columns path _

/-- Fields are bound place by place. -/
theorem readsOfFields_eq (catalog : Catalog) (columns : List Column) (path : List String)
    (fields : List FieldDecl) :
    (catalog.planFields (columnsMatching columns) path fields).map
        (ReadPlan.readsOfPartsAt path) =
      gather (catalog.bindPlace columns) (boundPlaces columns path fields) := by
  match fields with
  | [] => rfl
  | ⟨name, ⟨target, nullable, arguments⟩, tags⟩ :: rest =>
      have below := readsBelow_eq catalog columns (path ++ [name]) target
      have others := readsOfFields_eq catalog columns path rest
      have proper : path ++ [name] ≠ [] := by simp
      rw [planFields, boundPlaces, gather_append, gather_cons, ← others, bindPlace]
      dsimp only
      cases matching : columnsMatching columns (path ++ [name]) with
      | nil =>
          rw [(columnsEnding_eq_nil_iff proper).mpr matching]
          cases composite : target.isComposite with
          | false => rfl
          | true =>
              refine (map_readsOfPartsAt path _ _).trans ?_
              rw [map_readsAt_plan, below]
              simp only [List.isEmpty_nil, Bool.and_self, if_true]
              cases gather (catalog.bindPlace columns)
                  (boundPlacesBelow columns (path ++ [name]) target) with
              | error unbound => rfl
              | ok own => rfl
      | cons column more =>
          have ending : columnsEnding columns (path ++ [name]) ≠ [] := by
            rw [ne_eq, columnsEnding_eq_nil_iff proper, matching]
            exact List.cons_ne_nil _ _
          rw [List.isEmpty_eq_false_iff.mpr ending]
          cases more with
          | nil => exact map_readsOfPartsAt path _ _
          | cons other more => rfl

end

section

variable {catalog : Catalog} {columns : List Column} {place : FieldPlace}
variable {reads : List (List String × Extractor)}

/-- A place that is bound has one read, from the column that its path means, or it is a value
object without a column and has none. -/
theorem bindPlace_eq_ok (paths : (columns.map Column.path).Nodup) (proper : place.path ≠ [])
    (success : catalog.bindPlace columns place = .ok reads) :
    (∃ column extractor, Meant columns place.path column ∧
        extractor.column = some column.name ∧ reads = [(place.path, extractor)]) ∨
      columnsEnding columns place.path = [] ∧
        place.field.type.target.isComposite = true ∧ reads = [] := by
  unfold bindPlace at success
  split at success
  case h_1 column matching =>
    cases success
    exact .inl ⟨column, _, (meant_iff paths proper).mpr matching, rfl, rfl⟩
  case h_2 matching =>
    split at success
    case isTrue composite =>
      cases success
      exact .inr ⟨(columnsEnding_eq_nil_iff proper).mpr matching, composite, rfl⟩
    case isFalse => cases success
  case h_3 => cases success

theorem exists_bindPlace_iff (paths : (columns.map Column.path).Nodup)
    (proper : place.path ≠ []) :
    (∃ reads, catalog.bindPlace columns place = .ok reads) ↔ place.Bindable columns := by
  constructor
  · rintro ⟨reads, success⟩
    rcases bindPlace_eq_ok paths proper success with ⟨column, _, meant, _⟩ | ⟨none, composite, _⟩
    · exact .inl ⟨column, meant⟩
    · exact .inr ⟨none, composite⟩
  · rintro (⟨column, meant⟩ | ⟨none, composite⟩)
    · rw [bindPlace, (meant_iff paths proper).mp meant]
      exact ⟨_, rfl⟩
    · rw [bindPlace, (columnsEnding_eq_nil_iff proper).mp none]
      exact ⟨_, if_pos composite⟩

theorem unbindable_of_bindPlace (paths : (columns.map Column.path).Nodup)
    (proper : place.path ≠ []) {unbound : Unbound} (function : String)
    (failed : catalog.bindPlace columns place = .error unbound) :
    place.Unbindable columns function (unbound.fault function) := by
  unfold bindPlace at failed
  split at failed
  case h_1 => cases failed
  case h_2 matching =>
    split at failed
    case isTrue => cases failed
    case isFalse noComposite =>
      cases failed
      exact .unknown ((columnsEnding_eq_nil_iff proper).mpr matching)
        (Bool.eq_false_iff.mpr noComposite)
  case h_3 several noSingle noNone =>
    cases failed
    rcases columnsMatching_cases paths proper with ⟨column, _, _, found⟩ | ⟨none, found⟩
    · exact (noSingle column found).elim
    · rw [found] at noSingle noNone ⊢
      refine .ambiguous none ?_
      cases ending : columnsEnding columns place.path with
      | nil => exact (noNone ending).elim
      | cons column more =>
          cases more with
          | nil => exact (noSingle column ending).elim
          | cons other more => simp

/-- The places that are read are those to which a column belongs. -/
theorem reads_of_places {places : List FieldPlace} {lists : List (List (List String × Extractor))}
    (paths : (columns.map Column.path).Nodup)
    (proper : ∀ place, place ∈ places → place.path ≠ [])
    (bound : places.map (catalog.bindPlace columns) = lists.map .ok) :
    (∀ read, read ∈ lists.flatten → ∃ column, Meant columns read.1 column ∧
        read.2.column = some column.name) ∧
      lists.flatten.map Prod.fst =
        (places.filter fun place => !(columnsEnding columns place.path).isEmpty).map
          FieldPlace.path := by
  induction places generalizing lists with
  | nil =>
      obtain rfl := List.map_eq_nil_iff.mp bound.symm
      exact ⟨nofun, rfl⟩
  | cons place rest induction =>
      obtain ⟨own, others, rfl, ownBound, othersBound⟩ := List.map_eq_cons_iff.mp bound.symm
      obtain ⟨placeProper, restProper⟩ := List.forall_mem_cons.mp proper
      obtain ⟨each, order⟩ := induction restProper othersBound.symm
      rcases bindPlace_eq_ok paths placeProper ownBound.symm with
        ⟨column, extractor, meant, reads, rfl⟩ | ⟨none, _, rfl⟩
      · have some := List.isEmpty_eq_false_iff.mpr (List.ne_nil_of_mem meant.mem_columnsEnding)
        constructor
        · exact List.forall_mem_cons.mpr ⟨⟨column, meant, reads⟩, each⟩
        · simpa [some] using order
      · exact ⟨each, by simpa [none] using order⟩

end

/-! ## Projections -/

/-- The columns found under the names that are read are those that the reads mean. -/
theorem forall₂_found {columns : List Column} (names : (columns.map Column.name).Nodup)
    {reads : List (List String × Extractor)}
    (each : ∀ read, read ∈ reads → ∃ column, Meant columns read.1 column ∧
      read.2.column = some column.name) :
    List.Forall₂ (fun read column => Meant columns read.1 column ∧
        read.2.column = some column.name) reads
      ((reads.filterMap fun read => read.2.column).filterMap fun name =>
        columns.find? fun column => column.name == name) := by
  induction reads with
  | nil => exact .nil
  | cons read rest induction =>
      obtain ⟨⟨column, meant, reads⟩, others⟩ := List.forall_mem_cons.mp each
      have found := find?_name_of_mem names (RowPlan.mem_columnsEnding.mp meant.mem_columnsEnding).1
      rw [List.filterMap_cons, reads]
      dsimp only
      rw [List.filterMap_cons, found]
      exact .cons ⟨meant, reads⟩ (induction others)

/-- A projection succeeds or fails as its fields do. -/
theorem projectionPlan_eq (catalog : Catalog) (columns : List Column) (function : String)
    (view : ClassDecl) :
    catalog.projectionPlan function view columns =
      match catalog.planFields (columnsMatching columns) [] view.fields with
      | .ok parts =>
          .ok (.build none view.name parts, (ReadPlan.columnsOfParts parts).filterMap fun name =>
            columns.find? fun column => column.name == name)
      | .error unbound => .error (unbound.fault function) := by
  cases view
  rw [projectionPlan, plan]
  cases catalog.planFields (columnsMatching columns) [] _ with
  | ok parts => rfl
  | error unbound => cases unbound <;> rfl

end Catalog

/-- A projection never guesses. It succeeds where every place of its fields can be bound. Then a
value is read at each place to which a column belongs, from the column that the path means, and
the columns that come with the plan are those that are read, in reading order. Otherwise it
fails with the first place that cannot be bound: the columns whose path ends with that of the
place are all reported if there are several, and the place is unknown if there are none. -/
theorem projectionPlan_binds_exactly {columns : List Column}
    (paths : (columns.map Column.path).Nodup) (names : (columns.map Column.name).Nodup)
    (catalog : Catalog) (function : String) (view : ClassDecl) :
    ((∃ plan used, catalog.projectionPlan function view columns = .ok (plan, used)) ↔
      ∀ place, place ∈ boundPlacesBelow columns [] view → place.Bindable columns) ∧
    (∀ plan used, catalog.projectionPlan function view columns = .ok (plan, used) →
      List.Forall₂ (fun read column => Meant columns read.1 column ∧
        read.2.column = some column.name) (plan.readsAt []) used ∧
      (plan.readsAt []).map Prod.fst =
        ((boundPlacesBelow columns [] view).filter
          fun place => !(columnsEnding columns place.path).isEmpty).map FieldPlace.path) ∧
    ∀ fault, catalog.projectionPlan function view columns = .error fault →
      ∃ before place after, boundPlacesBelow columns [] view = before ++ place :: after ∧
        (∀ earlier, earlier ∈ before → earlier.Bindable columns) ∧
        ¬ place.Bindable columns ∧ place.Unbindable columns function fault := by
  have proper := ne_nil_of_boundPlacesBelow columns [] view
  have bound := Catalog.readsBelow_eq catalog columns [] view
  rw [Catalog.projectionPlan_eq]
  cases planned : catalog.planFields (Catalog.columnsMatching columns) [] view.fields with
  | ok parts =>
      rw [planned] at bound
      obtain ⟨lists, success, reads⟩ := map_eq_ok_iff.mp bound.symm
      obtain ⟨each, order⟩ :=
        Catalog.reads_of_places paths proper (mapM_eq_ok_iff.mp success)
      refine ⟨⟨fun _ place member => ?_, fun _ => ⟨_, _, rfl⟩⟩, ?_, nofun⟩
      · exact (Catalog.exists_bindPlace_iff paths (proper place member)).mp
          (exists_mapM_iff.mp ⟨lists, success⟩ place member)
      · rintro plan used result
        cases result
        rw [ReadPlan.columnsOfParts_eq []]
        rw [reads] at each order
        exact ⟨Catalog.forall₂_found names each, order⟩
  | error unbound =>
      rw [planned] at bound
      have failed := map_eq_error_iff.mp bound.symm
      obtain ⟨before, place, after, split, succeed, placeFailed⟩ := mapM_eq_error_iff.mp failed
      have inPlaces : ∀ other, other ∈ before ++ place :: after → other.path ≠ [] :=
        split ▸ proper
      have placeProper := inPlaces place (List.mem_append_right before List.mem_cons_self)
      have unbindable : ¬ place.Bindable columns := by
        intro bindable
        obtain ⟨reads, success⟩ :=
          (Catalog.exists_bindPlace_iff paths placeProper).mpr bindable
        cases success.symm.trans placeFailed
      refine ⟨⟨nofun, fun all => ?_⟩, nofun, ?_⟩
      · have member : place ∈ boundPlacesBelow columns [] view :=
          split ▸ List.mem_append_right before List.mem_cons_self
        exact (unbindable (all place member)).elim
      · rintro fault result
        cases result
        refine ⟨before, place, after, split, fun earlier member => ?_, unbindable,
          Catalog.unbindable_of_bindPlace paths placeProper function placeFailed⟩
        exact (Catalog.exists_bindPlace_iff paths
          (inPlaces earlier (List.mem_append_left _ member))).mp (succeed earlier member)

namespace Parcel

def columns : List Column := [
  ⟨["id"], .named "i64", "id", .bigInt, true, false⟩,
  ⟨["sender", "city"], .named "String", "sender_city", .text, false, false⟩,
  ⟨["receiver", "city"], .named "String", "receiver_city", .text, false, false⟩]

def address : ClassDecl where
  name := .bare "Address"
  fields := [⟨"city", .named "String", []⟩]

/-- Where parcels come from. -/
def origin : ClassDecl where
  name := .bare "Origin"
  fields := [⟨"sender", { target := address }, []⟩]

/-- One city of a parcel that has two. -/
def place : ClassDecl where
  name := .bare "Place"
  fields := [⟨"id", .named "i64", []⟩, ⟨"city", .named "String", []⟩]

/-- The street of a sender, which parcels do not have. -/
def street : ClassDecl where
  name := .bare "Street"
  fields := [⟨"sender",
    { target := { name := .bare "Address", fields := [⟨"street", .named "String", []⟩] } }, []⟩]

end Parcel

/-- The city of the sender is found through its value object. A city alone could be either, and
a street is none of them. -/
theorem projectionPlan_binds_exactly_parcel :
    (Parcel.columns.map Column.path).Nodup ∧ (Parcel.columns.map Column.name).Nodup ∧
      (∃ plan used,
        Catalog.builtin.projectionPlan "find_origins" Parcel.origin Parcel.columns =
          .ok (plan, used) ∧
        (plan.readsAt []).map Prod.fst = [["sender", "city"]] ∧
        used.map Column.name = ["sender_city"]) ∧
      (¬ ∃ plan used,
        Catalog.builtin.projectionPlan "find_places" Parcel.place Parcel.columns =
          .ok (plan, used)) ∧
      Catalog.builtin.projectionPlan "find_places" Parcel.place Parcel.columns =
        .error (.ambiguousColumn "find_places" "city" ["sender_city", "receiver_city"]) ∧
      Catalog.builtin.projectionPlan "find_streets" Parcel.street Parcel.columns =
        .error (.unknownProjectionField "find_streets" "sender.street") := by
  have paths : (Parcel.columns.map Column.path).Nodup := by decide
  have names : (Parcel.columns.map Column.name).Nodup := by decide
  obtain ⟨_, origins, _⟩ :=
    projectionPlan_binds_exactly paths names .builtin "find_origins" Parcel.origin
  obtain ⟨succeeds, _, places⟩ :=
    projectionPlan_binds_exactly paths names .builtin "find_places" Parcel.place
  have ambiguous : Catalog.builtin.projectionPlan "find_places" Parcel.place Parcel.columns =
      .error (.ambiguousColumn "find_places" "city" ["sender_city", "receiver_city"]) := rfl
  obtain ⟨_, city, _, split, _, unbindable, _⟩ := places _ ambiguous
  refine ⟨paths, names, ⟨_, _, rfl, (origins _ _ rfl).2, rfl⟩, ?_, ambiguous, rfl⟩
  intro success
  have member : city ∈ boundPlacesBelow Parcel.columns [] Parcel.place :=
    split ▸ List.mem_append_right _ List.mem_cons_self
  exact unbindable (succeeds.mp success city member)

end RowPlan
