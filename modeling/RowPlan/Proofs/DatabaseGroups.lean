import Mathlib.Data.List.Nodup
import RowPlan.Proofs.Success
import RowPlan.Repository

/-!
# Repositories of databases

Repositories that are compiled together come back under the databases that they name.
Putting one more repository under its database keeps the others where they are, so that
nothing is lost and everything stays in the order of the input.
-/

namespace RowPlan

namespace Database

/-- Names stand in the order in which they first occur among all names. -/
structure FirstNamed (all names : List String) : Prop where
  mem_iff : ∀ name, name ∈ names ↔ name ∈ all
  ordered : names.Pairwise fun first later => all.idxOf first < all.idxOf later

/-- Repositories under the databases that they name: every database once, in the order in which
they are first named, with all of its repositories in their order. -/
structure Groups (repositories : List Repository) (databases : List Database) : Prop where
  distinct : (databases.map Database.name).Nodup
  named : FirstNamed (repositories.map Repository.database) (databases.map Database.name)
  nonempty : ∀ database, database ∈ databases → database.repositories ≠ []
  own : ∀ database, database ∈ databases → ∀ repository,
    repository ∈ database.repositories → repository.database = database.name
  kept : ∀ database, database ∈ databases →
    database.repositories =
      repositories.filter fun repository => repository.database = database.name
  placed : ∀ repository, repository ∈ repositories →
    ∃ database, database ∈ databases ∧ repository ∈ database.repositories

/-! ## Names in the order of their first occurrence -/

namespace FirstNamed

variable {all names others : List String} {name : String}

theorem distinct (first : FirstNamed all names) : names.Nodup := by
  apply first.ordered.imp
  rintro name _ before rfl
  exact Nat.lt_irrefl _ before

theorem unique (first : FirstNamed all names) (second : FirstNamed all others) :
    names = others := by
  have permutation : names.Perm others := by
    apply (List.perm_ext_iff_of_nodup first.distinct second.distinct).mpr
    intro name
    rw [first.mem_iff, second.mem_iff]
  apply permutation.eq_of_pairwise _ first.ordered second.ordered
  intro left right _ _ before after
  exact (Nat.lt_asymm before after).elim

theorem ordered_append (first : FirstNamed all names) (more : List String) :
    names.Pairwise fun left right => (all ++ more).idxOf left < (all ++ more).idxOf right := by
  apply first.ordered.imp_of_mem
  intro left right leftMember rightMember before
  rw [List.idxOf_append_of_mem ((first.mem_iff left).mp leftMember),
    List.idxOf_append_of_mem ((first.mem_iff right).mp rightMember)]
  exact before

theorem again (first : FirstNamed all names) (known : name ∈ names) :
    FirstNamed (all ++ [name]) names := by
  refine ⟨fun other => ?_, first.ordered_append [name]⟩
  rw [List.mem_append, ← first.mem_iff, List.mem_singleton]
  constructor
  · exact .inl
  · rintro (member | rfl)
    · exact member
    · exact known

theorem next (first : FirstNamed all names) (fresh : name ∉ names) :
    FirstNamed (all ++ [name]) (names ++ [name]) := by
  constructor
  · intro other
    rw [List.mem_append, List.mem_append, first.mem_iff]
  · apply List.pairwise_append.mpr
    refine ⟨first.ordered_append [name], List.pairwise_singleton _ _, ?_⟩
    intro other member last isLast
    obtain rfl := List.mem_singleton.mp isLast
    have before := (first.mem_iff other).mp member
    rw [List.idxOf_append_of_mem before,
      List.idxOf_append_of_notMem fun known => fresh ((first.mem_iff last).mpr known)]
    exact Nat.lt_add_right _ (List.idxOf_lt_length_of_mem before)

end FirstNamed

/-! ## Holding repositories -/

section

variable {repositories : List Repository} {repository : Repository} {names : List String}
  {name : String}

/-- The database of a name with its repositories. -/
def holding (repositories : List Repository) (name : String) : Database where
  name := name
  repositories := repositories.filter fun repository => repository.database = name

theorem holding_append_own :
    holding (repositories ++ [repository]) repository.database =
      { holding repositories repository.database with
        repositories := (holding repositories repository.database).repositories ++ [repository] } := by
  simp [holding]

theorem holding_append_other (other : repository.database ≠ name) :
    holding (repositories ++ [repository]) name = holding repositories name := by
  simp [holding, other]

theorem map_holding_append (absent : repository.database ∉ names) :
    names.map (holding (repositories ++ [repository])) = names.map (holding repositories) := by
  apply List.map_congr_left
  intro name member
  apply holding_append_other
  rintro rfl
  exact absent member

theorem insert_known (distinct : names.Nodup) (known : repository.database ∈ names) :
    insert repository (names.map (holding repositories)) =
      names.map (holding (repositories ++ [repository])) := by
  induction names with
  | nil => cases known
  | cons name rest induction =>
      obtain ⟨fresh, distinct⟩ := List.nodup_cons.mp distinct
      rw [List.map_cons, List.map_cons, insert]
      split
      case isTrue same =>
        obtain rfl : name = repository.database := same
        rw [holding_append_own, map_holding_append fresh]
      case isFalse other =>
        have different : repository.database ≠ name := Ne.symm other
        rw [holding_append_other different,
          induction distinct ((List.mem_cons.mp known).resolve_left different)]

theorem insert_new (fresh : repository.database ∉ names)
    (unnamed : repository.database ∉ repositories.map Repository.database) :
    insert repository (names.map (holding repositories)) =
      (names ++ [repository.database]).map (holding (repositories ++ [repository])) := by
  induction names with
  | nil =>
      have none : repositories.filter
          (fun other => other.database = repository.database) = [] := by
        apply List.filter_eq_nil_iff.mpr
        intro other member same
        apply unnamed
        rw [← of_decide_eq_true same]
        exact List.mem_map_of_mem member
      simp [insert, holding, none]
  | cons name rest induction =>
      obtain ⟨different, fresh⟩ := List.ne_and_not_mem_of_not_mem_cons fresh
      rw [List.map_cons, List.cons_append, List.map_cons, insert,
        if_neg (fun same => different same.symm), induction fresh,
        holding_append_other different]

/-- One more repository goes to the end of its database, which may be new. -/
theorem insert_holding (repository : Repository)
    (first : FirstNamed (repositories.map Repository.database) names) :
    ∃ more, insert repository (names.map (holding repositories)) =
        more.map (holding (repositories ++ [repository])) ∧
      FirstNamed ((repositories ++ [repository]).map Repository.database) more := by
  rw [List.map_append, List.map_singleton]
  by_cases known : repository.database ∈ names
  · exact ⟨names, insert_known first.distinct known, first.again known⟩
  · have unnamed := (first.mem_iff repository.database).not.mp known
    exact ⟨_, insert_new known unnamed, first.next known⟩

theorem foldl_insert_holding (first : FirstNamed (repositories.map Repository.database) names)
    (later : List Repository) :
    ∃ more, later.foldl (fun databases repository => insert repository databases)
          (names.map (holding repositories)) =
        more.map (holding (repositories ++ later)) ∧
      FirstNamed ((repositories ++ later).map Repository.database) more := by
  induction later generalizing repositories names with
  | nil => exact ⟨names, by simp, by simpa using first⟩
  | cons repository rest induction =>
      obtain ⟨more, inserted, moreFirst⟩ := insert_holding repository first
      rw [List.foldl_cons, inserted, List.append_cons repositories repository rest]
      exact induction moreFirst

theorem group_eq (repositories : List Repository) :
    ∃ names, group repositories = names.map (holding repositories) ∧
      FirstNamed (repositories.map Repository.database) names := by
  have none : FirstNamed (([] : List Repository).map Repository.database) [] :=
    ⟨fun _ => Iff.rfl, .nil⟩
  exact foldl_insert_holding none repositories

end

/-! ## Groups -/

variable {repositories : List Repository} {databases : List Database} {names : List String}

theorem groups_holding (first : FirstNamed (repositories.map Repository.database) names) :
    Groups repositories (names.map (holding repositories)) := by
  have same : (names.map (holding repositories)).map Database.name = names := by
    rw [List.map_map]
    exact List.map_id names
  have held : ∀ name, name ∈ names → ∃ repository,
      repository ∈ repositories ∧ repository.database = name := by
    intro name member
    exact List.mem_map.mp ((first.mem_iff name).mp member)
  refine ⟨same.symm ▸ first.distinct, same.symm ▸ first, ?_, ?_, ?_, ?_⟩
  · intro database member
    obtain ⟨name, inNames, rfl⟩ := List.mem_map.mp member
    obtain ⟨repository, present, named⟩ := held name inNames
    exact List.ne_nil_of_mem (List.mem_filter.mpr ⟨present, decide_eq_true named⟩)
  · intro database member repository present
    obtain ⟨name, _, rfl⟩ := List.mem_map.mp member
    exact of_decide_eq_true (List.mem_filter.mp present).2
  · intro database member
    obtain ⟨name, _, rfl⟩ := List.mem_map.mp member
    rfl
  · intro repository present
    have named := (first.mem_iff repository.database).mpr (List.mem_map_of_mem present)
    exact ⟨_, List.mem_map_of_mem named, List.mem_filter.mpr ⟨present, decide_eq_true rfl⟩⟩

theorem Groups.eq_map_holding (groups : Groups repositories databases) :
    databases = (databases.map Database.name).map (holding repositories) := by
  rw [List.map_map]
  refine (List.map_id databases).symm.trans (List.map_congr_left ?_)
  intro database member
  exact congrArg (Database.mk database.name) (groups.kept database member)

/-- There is one way to group repositories. -/
theorem groups_iff : Groups repositories databases ↔ databases = group repositories := by
  obtain ⟨names, grouped, first⟩ := group_eq repositories
  rw [grouped]
  constructor
  · intro groups
    rw [groups.eq_map_holding, groups.named.unique first]
  · rintro rfl
    exact groups_holding first

/-- Repositories that compile one by one are grouped by their databases, each in its place,
and otherwise the first that does not compile is reported. -/
theorem compileAll_groups (options : Options) (catalog : Catalog)
    (interfaces : List ClassDecl) :
    ((∃ databases, compileAll options catalog interfaces = .ok databases) ↔
      ∀ interface, interface ∈ interfaces →
        ∃ repository, Repository.compile options catalog interface = .ok repository) ∧
    (∀ databases, compileAll options catalog interfaces = .ok databases ↔
      ∃ repositories : List Repository,
        interfaces.map (Repository.compile options catalog) = repositories.map .ok ∧
        Groups repositories databases) ∧
    ∀ error, compileAll options catalog interfaces = .error error ↔
      ∃ before interface after, interfaces = before ++ interface :: after ∧
        (∀ earlier, earlier ∈ before →
          ∃ repository, Repository.compile options catalog earlier = .ok repository) ∧
        Repository.compile options catalog interface = .error error := by
  refine ⟨?_, ?_, ?_⟩
  · simp only [compileAll, map_eq_ok_iff]
    rw [← exists_mapM_iff]
    constructor
    · rintro ⟨_, repositories, compiled, _⟩
      exact ⟨repositories, compiled⟩
    · rintro ⟨repositories, compiled⟩
      exact ⟨_, repositories, compiled, rfl⟩
  · intro databases
    simp only [compileAll, map_eq_ok_iff, mapM_eq_ok_iff, groups_iff]
    exact exists_congr fun repositories => and_congr_right fun _ => eq_comm
  · intro error
    rw [← mapM_eq_error_iff, compileAll]
    cases interfaces.mapM (Repository.compile options catalog) with
    | error other => simp [Except.map]
    | ok repositories => simp [Except.map]

end Database

end RowPlan
