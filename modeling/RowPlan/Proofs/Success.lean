/-!
# Successful results

A computation that may fail in several places succeeds exactly when each of its
steps does. The lemmas here open one step at a time.
-/

namespace RowPlan

theorem ok_bind {ε α β : Type} (value : α) (next : α → Except ε β) :
    (Except.ok value >>= next) = next value :=
  rfl

theorem bind_eq_ok_iff {ε α β : Type} {first : Except ε α} {next : α → Except ε β}
    {result : β} :
    (first >>= next) = .ok result ↔
      ∃ value, first = .ok value ∧ next value = .ok result := by
  cases first with
  | error fault => simp [bind, Except.bind]
  | ok value => simp [bind, Except.bind]

theorem map_eq_ok_iff {ε α β : Type} {first : Except ε α} {change : α → β}
    {result : β} :
    first.map change = .ok result ↔ ∃ value, first = .ok value ∧ change value = result := by
  cases first with
  | error fault => simp [Except.map]
  | ok value => simp [Except.map]

theorem map_eq_error_iff {ε α β : Type} {first : Except ε α} {change : α → β} {fault : ε} :
    first.map change = .error fault ↔ first = .error fault := by
  cases first with
  | error other => simp [Except.map]
  | ok value => simp [Except.map]

section

variable {ε α β : Type} {function : α → Except ε β} {values : List α} {results : List β}

/-- A list is computed value by value, in its order. -/
theorem mapM_eq_ok_iff :
    values.mapM function = .ok results ↔ values.map function = results.map .ok := by
  induction values generalizing results with
  | nil => simp [pure, Except.pure, eq_comm]
  | cons value rest induction =>
      simp only [List.mapM_cons, bind_eq_ok_iff, induction, List.map_cons]
      constructor
      · rintro ⟨first, found, others, othersFound, equality⟩
        cases equality
        rw [found, othersFound, List.map_cons]
      · intro equality
        obtain ⟨first, others, rfl, found, othersFound⟩ := List.map_eq_cons_iff.mp equality.symm
        exact ⟨first, found.symm, others, othersFound.symm, rfl⟩

theorem exists_mapM_iff :
    (∃ results, values.mapM function = .ok results) ↔
      ∀ value, value ∈ values → ∃ result, function value = .ok result := by
  simp only [mapM_eq_ok_iff]
  induction values with
  | nil => simp
  | cons value rest induction =>
      rw [List.forall_mem_cons, ← induction]
      constructor
      · rintro ⟨results, equality⟩
        obtain ⟨first, others, rfl, found, othersFound⟩ := List.map_eq_cons_iff.mp equality.symm
        exact ⟨⟨first, found.symm⟩, others, othersFound.symm⟩
      · rintro ⟨⟨first, found⟩, others, othersFound⟩
        exact ⟨first :: others, by rw [List.map_cons, List.map_cons, found, othersFound]⟩

theorem mapM_cons_eq_error_iff {value : α} {rest : List α} {fault : ε} :
    (value :: rest).mapM function = .error fault ↔
      function value = .error fault ∨
        (∃ result, function value = .ok result) ∧ rest.mapM function = .error fault := by
  rw [List.mapM_cons]
  cases found : function value with
  | error other => simp [bind, Except.bind]
  | ok first =>
      cases others : rest.mapM function with
      | error other => simp [bind, Except.bind]
      | ok results => simp [bind, Except.bind, pure, Except.pure]

/-- A list fails with the first of its values that fails. -/
theorem mapM_eq_error_iff {fault : ε} :
    values.mapM function = .error fault ↔
      ∃ before value after, values = before ++ value :: after ∧
        (∀ earlier, earlier ∈ before → ∃ result, function earlier = .ok result) ∧
        function value = .error fault := by
  induction values with
  | nil => simp [pure, Except.pure]
  | cons value rest induction =>
      rw [mapM_cons_eq_error_iff, induction]
      constructor
      · rintro (failed | ⟨success, before, failing, after, rfl, succeed, failed⟩)
        · exact ⟨[], value, rest, rfl, nofun, failed⟩
        · exact ⟨value :: before, failing, after, rfl,
            List.forall_mem_cons.mpr ⟨success, succeed⟩, failed⟩
      · rintro ⟨before, failing, after, split, succeed, failed⟩
        cases before with
        | nil =>
            obtain ⟨rfl, rfl⟩ := List.cons.inj split
            exact .inl failed
        | cons first before =>
            obtain ⟨rfl, rfl⟩ := List.cons.inj split
            obtain ⟨success, succeed⟩ := List.forall_mem_cons.mp succeed
            exact .inr ⟨success, before, failing, after, rfl, succeed, failed⟩

theorem map_eq_of_map_ok {γ : Type} {view : β → γ} {source : α → γ}
    (agree : ∀ value result, function value = .ok result → view result = source value)
    (found : values.map function = results.map .ok) : results.map view = values.map source := by
  induction values generalizing results with
  | nil =>
      obtain rfl := List.map_eq_nil_iff.mp found.symm
      rfl
  | cons value rest induction =>
      obtain ⟨first, others, rfl, firstFound, othersFound⟩ := List.map_eq_cons_iff.mp found.symm
      rw [List.map_cons, List.map_cons, agree value first firstFound.symm,
        induction othersFound.symm]

theorem forall_of_map_ok {property : β → Prop}
    (each : ∀ value, value ∈ values → ∃ result, function value = .ok result ∧ property result)
    (found : values.map function = results.map .ok) :
    ∀ result, result ∈ results → property result := by
  intro result member
  have source : Except.ok result ∈ values.map function := found ▸ List.mem_map_of_mem member
  obtain ⟨value, among, success⟩ := List.mem_map.mp source
  obtain ⟨other, otherSuccess, holds⟩ := each value among
  exact Except.ok.inj (success.symm.trans otherSuccess) ▸ holds

theorem exists_of_mem_mapM (success : values.mapM function = .ok results) :
    ∀ result, result ∈ results → ∃ value, value ∈ values ∧ function value = .ok result := by
  intro result member
  have found : Except.ok result ∈ values.map function :=
    mapM_eq_ok_iff.mp success ▸ List.mem_map_of_mem member
  exact List.mem_map.mp found

end

end RowPlan
