import Mathlib.Data.List.Flatten
import RowPlan.Proofs.CheckedParts

/-!
# Reported faults

The fault of a reading is a tree of faults, and what is reported of it are the single faults in
the tree. `Checked.Accounts` compares them with the faults that the source has of its own. It is
kept by all the ways in which readings are put together.
-/

namespace RowPlan

namespace Fault

mutual

/-- The single faults in a fault. -/
def singles : Fault → List Fault
  | single cause location => [single cause location]
  | group faults _ => singlesOf faults

/-- The single faults in several faults. -/
def singlesOf : List Fault → List Fault
  | [] => []
  | fault :: rest => fault.singles ++ singlesOf rest

end

theorem singlesOf_append (faults more : List Fault) :
    singlesOf (faults ++ more) = singlesOf faults ++ singlesOf more := by
  induction faults with
  | nil => rfl
  | cons fault rest induction =>
      rw [List.cons_append, singlesOf, singlesOf, induction, List.append_assoc]

theorem singles_together (faults : List Fault) : (together faults).singles = singlesOf faults := by
  unfold together
  split
  · rw [singlesOf, singlesOf, List.append_nil]
  · rw [singles]

end Fault

namespace Checked

section

variable {α β : Type}

/-- The single faults that are reported of a reading. -/
def reported : Checked α → List Fault
  | .ok _ => []
  | .error faults => Fault.singlesOf faults

theorem reported_of_error (fault : Fault) :
    (of (.error fault : Except Fault α)).reported = fault.singles :=
  List.append_nil _

theorem reported_map (result : Checked α) (change : α → β) :
    reported (result.map change) = result.reported := by
  cases result with
  | ok value => rfl
  | error faults => rfl

theorem reported_both (first : Checked α) (second : Checked β) :
    (both first second).reported = first.reported ++ second.reported := by
  cases first with
  | ok one =>
      cases second with
      | ok other => rfl
      | error faults => rfl
  | error faults =>
      cases second with
      | ok other => exact (List.append_nil _).symm
      | error more => exact Fault.singlesOf_append faults more

theorem reported_all (results : List (Checked α)) :
    (all results).reported = results.flatMap reported := by
  induction results with
  | nil => rfl
  | cons first rest induction =>
      rw [all, reported_map, reported_both, induction, List.flatMap_cons]

theorem reported_together (result : Checked α) :
    (of result.together).reported = result.reported := by
  cases result with
  | ok value => rfl
  | error faults => exact (reported_of_error _).trans (Fault.singles_together faults)

/-- Something is reported of a source that cannot be read. -/
def Tells (result : Checked α) : Prop :=
  result.reported = [] → ∃ value, result = .ok value

theorem tells_ok (value : α) : Tells (.ok value) :=
  fun _ => ⟨value, rfl⟩

theorem tells_of_single (cause : FaultCause) (location : Option String) :
    Tells (of (.error (Fault.single cause location) : Except Fault α)) :=
  nofun

theorem Tells.map {result : Checked α} (tells : result.Tells) (change : α → β) :
    Tells (result.map change) := by
  intro silent
  rw [reported_map] at silent
  obtain ⟨value, rfl⟩ := tells silent
  exact ⟨change value, rfl⟩

theorem Tells.both {first : Checked α} {second : Checked β} (here : first.Tells)
    (there : second.Tells) : Tells (both first second) := by
  intro silent
  rw [reported_both, List.append_eq_nil_iff] at silent
  obtain ⟨one, rfl⟩ := here silent.1
  obtain ⟨other, rfl⟩ := there silent.2
  exact ⟨(one, other), rfl⟩

theorem Tells.all {results : List (Checked α)}
    (each : ∀ result, result ∈ results → result.Tells) : Tells (all results) := by
  induction results with
  | nil => exact tells_ok []
  | cons first rest induction =>
      obtain ⟨here, later⟩ := List.forall_mem_cons.mp each
      exact (here.both (induction later)).map _

theorem Tells.together {result : Checked α} (tells : result.Tells) :
    Tells (of result.together) := by
  intro silent
  rw [reported_together] at silent
  obtain ⟨value, rfl⟩ := tells silent
  exact ⟨value, rfl⟩

/-! ## Faults that are accounted for -/

/-- What is reported of a reading, compared with the own faults of the source and those of them
that are shown. All shown faults are reported, and no others if nothing else that the reading comes
across is at fault. -/
structure Accounts (alone : Prop) (own shown : List Fault) (result : Checked α) : Prop where
  within : shown.Sublist own
  complete : shown.Sublist result.reported
  exact : alone → result.reported = shown
  faultless : (∃ value, result = .ok value) → own = []
  tells : result.Tells

namespace Accounts

variable {alone : Prop} {own shown moreOwn moreShown : List Fault}

theorem of_tells {result : Checked α} (tells : result.Tells) :
    Accounts alone result.reported result.reported result where
  within := List.Sublist.refl _
  complete := List.Sublist.refl _
  exact _ := rfl
  faultless := by
    rintro ⟨value, rfl⟩
    rfl
  tells := tells

theorem ok (value : α) : Accounts alone [] [] (.ok value) :=
  of_tells (tells_ok value)

theorem single (cause : FaultCause) :
    Accounts alone [Fault.of cause] [Fault.of cause]
      (of (.error (Fault.of cause) : Except Fault α)) :=
  of_tells (tells_of_single cause none)

theorem weaken {aside : Prop} {result : Checked α} (accounts : Accounts alone own shown result)
    (imply : aside → alone) : Accounts aside own shown result :=
  { accounts with exact := fun apart => accounts.exact (imply apart) }

theorem map {result : Checked α} (accounts : Accounts alone own shown result)
    (change : α → β) : Accounts alone own shown (result.map change) where
  within := accounts.within
  complete := reported_map result change ▸ accounts.complete
  exact := reported_map result change ▸ accounts.exact
  faultless := by
    rintro ⟨_, success⟩
    cases result with
    | ok value => exact accounts.faultless ⟨value, rfl⟩
    | error faults => cases success
  tells := accounts.tells.map change

theorem together {result : Checked α} (accounts : Accounts alone own shown result) :
    Accounts alone own shown (of result.together) where
  within := accounts.within
  complete := (reported_together result).symm ▸ accounts.complete
  exact := (reported_together result).symm ▸ accounts.exact
  faultless := by
    rintro ⟨value, success⟩
    exact accounts.faultless ⟨value, together_eq_ok_iff.mp (of_eq_ok_iff.mp success)⟩
  tells := accounts.tells.together

/-- Two parts are read, whatever is wrong with the first. -/
theorem both {first : Checked α} {second : Checked β} (one : Accounts alone own shown first)
    (other : Accounts alone moreOwn moreShown second) :
    Accounts alone (own ++ moreOwn) (shown ++ moreShown) (both first second) where
  within := one.within.append other.within
  complete := by
    rw [reported_both]
    exact one.complete.append other.complete
  exact apart := by
    rw [reported_both, one.exact apart, other.exact apart]
  faultless := by
    rintro ⟨value, success⟩
    obtain ⟨found, restFound⟩ := both_eq_ok_iff.mp success
    rw [one.faultless ⟨_, found⟩, other.faultless ⟨_, restFound⟩]
    rfl
  tells := one.tells.both other.tells

theorem all {sources : List β} {read : β → Checked α} {own shown : β → List Fault}
    (each : ∀ source, source ∈ sources →
      Accounts alone (own source) (shown source) (read source)) :
    Accounts alone (sources.flatMap own) (sources.flatMap shown)
      (Checked.all (sources.map read)) := by
  induction sources with
  | nil => exact ok []
  | cons first rest induction =>
      obtain ⟨here, later⟩ := List.forall_mem_cons.mp each
      exact (here.both (induction later)).map _

/-- Another source is read on the way. -/
theorem aside {result : Checked α} (accounts : Accounts alone own shown result)
    (apart : alone → own = []) : Accounts alone [] [] result where
  within := List.Sublist.refl _
  complete := List.nil_sublist _
  exact others := by
    have none := accounts.within
    rw [apart others] at none
    exact (accounts.exact others).trans (List.sublist_nil.mp none)
  faultless _ := rfl
  tells := accounts.tells

/-- The reading ends with a fault, and nothing is shown of what comes after it. -/
theorem stop {fault : Fault}
    (accounts : Accounts alone own shown (of (.error fault : Except Fault α)))
    (later : List Fault) :
    Accounts alone (own ++ later) shown (of (.error fault : Except Fault β)) where
  within := accounts.within.trans (List.sublist_append_left own later)
  complete := accounts.complete
  exact := accounts.exact
  faultless := nofun
  tells silent := nomatch accounts.tells silent

end Accounts

end

end Checked

end RowPlan
