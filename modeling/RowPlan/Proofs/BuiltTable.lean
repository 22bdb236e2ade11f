import RowPlan.Proofs.Flattening
import RowPlan.Table

/-!
# Built tables

What building a table settles: its columns are the flattened fields of the
entity, no two of them have one name, and the plan is that of the entity.
-/

namespace RowPlan

namespace Table

/-- Looking for a repeated name fails exactly where all names differ. -/
theorem repeatedName_eq_none_iff {seen : List String} {columns : List Column} :
    repeatedName seen columns = none ↔
      (columns.map Column.name).Nodup ∧
        ∀ name, name ∈ columns.map Column.name → name ∉ seen := by
  induction columns generalizing seen with
  | nil => simp [repeatedName]
  | cons column rest induction =>
      by_cases known : column.name ∈ seen
      · simp [repeatedName, known]
      · have step : repeatedName seen (column :: rest) =
            repeatedName (column.name :: seen) rest := by
          simp [repeatedName, known]
        rw [step, induction, List.map_cons, List.nodup_cons, List.forall_mem_cons]
        constructor
        · rintro ⟨distinct, apart⟩
          have fresh : column.name ∉ rest.map Column.name := by
            intro repeated
            exact apart column.name repeated List.mem_cons_self
          exact ⟨⟨fresh, distinct⟩, known,
            fun name member old => apart name member (List.mem_cons_of_mem _ old)⟩
        · rintro ⟨⟨fresh, distinct⟩, _, apart⟩
          refine ⟨distinct, ?_⟩
          intro name member old
          rcases List.mem_cons.mp old with same | older
          · exact fresh (same ▸ member)
          · exact apart name member older

variable {options : Options} {catalog : Catalog} {entity : ClassDecl}
  {overrides : Option ClassDecl} {table : Table}

/-- The type of no value has no plan. -/
theorem proper_of_plan {plan : ReadPlan}
    (built : build options catalog entity overrides = .ok table)
    (planned : table.plan = some plan) : entity.name.isUnit = false := by
  apply Bool.eq_false_iff.mpr
  intro unit
  simp only [build, unit, if_true] at built
  cases built
  cases planned

theorem build_parts (built : build options catalog entity overrides = .ok table)
    (proper : entity.name.isUnit = false) :
    Flattens catalog [] entity.fields table.columns ∧
      (table.columns.map Column.name).Nodup ∧
      ∃ plan, table.plan = some plan ∧
        catalog.entityPlan entity table.columns = .ok plan := by
  simp only [build, proper, Bool.false_eq_true, if_false, bind_eq_ok_iff] at built
  obtain ⟨columns, flattened, built⟩ := built
  cases repeated : repeatedName [] columns with
  | some name =>
      rw [repeated] at built
      cases built
  | none =>
      simp only [repeated, bind_eq_ok_iff] at built
      obtain ⟨plan, planned, equality⟩ := built
      cases equality
      exact ⟨columns_eq_ok_iff.mp flattened, (repeatedName_eq_none_iff.mp repeated).1,
        plan, rfl, planned⟩

theorem build_names_nodup (built : build options catalog entity overrides = .ok table) :
    (table.columns.map Column.name).Nodup := by
  by_cases unit : entity.name.isUnit = true
  · simp only [build, unit, if_true] at built
    cases built
    exact List.nodup_nil
  · exact (build_parts built (Bool.eq_false_iff.mpr unit)).2.1

end Table

end RowPlan
