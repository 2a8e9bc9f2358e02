import Mathlib.Data.List.Forall2

/-!
# Reading lists entry by entry

A list is read from its first entry on until one cannot be read.  It is read
where all of its entries are, and fails as the first entry that fails.
-/

namespace SqlAnywhere.Traversal

/-! ## One step after another -/

section Steps

variable {Failure First Second : Type} {first : Except Failure First}

/-- A step that goes on from another one gives a value where both do. -/
theorem bind_eq_ok_iff
    {next : First → Except Failure Second} {value : Second} :
    first >>= next = .ok value ↔
      ∃ found, first = .ok found ∧ next found = .ok value := by
  cases first <;> simp [bind, Except.bind]

/-- A step that goes on from another one fails where either does. -/
theorem bind_eq_error_iff
    {next : First → Except Failure Second} {failure : Failure} :
    first >>= next = .error failure ↔
      first = .error failure ∨
        ∃ found, first = .ok found ∧ next found = .error failure := by
  cases first <;> simp [bind, Except.bind]

/-- A step gives a value seen otherwise where it gives a value. -/
theorem map_eq_ok_iff {change : First → Second} {value : Second} :
    first.map change = .ok value ↔
      ∃ found, first = .ok found ∧ change found = value := by
  cases first <;> simp [Except.map]

end Steps

/-! ## Lists -/

variable {Entry Failure Value : Type}
  {read : Entry → Except Failure Value}

/-- A list is read into the values that its entries are read into. -/
theorem mapM_eq_ok_iff {entries : List Entry} {values : List Value} :
    entries.mapM read = .ok values ↔
      List.Forall₂ (fun entry value => read entry = .ok value)
        entries values := by
  induction entries generalizing values with
  | nil => simp [pure, Except.pure, eq_comm]
  | cons entry entries ih =>
      rw [List.mapM_cons, List.forall₂_cons_left_iff]
      cases first : read entry with
      | error failure => simp [bind, Except.bind]
      | ok value =>
          cases others : entries.mapM read with
          | error failure =>
              simp [bind, Except.bind, ← ih, others]
          | ok later =>
              simp [bind, Except.bind, pure, Except.pure, ← ih, others,
                eq_comm]

/-- A list is read where all of its entries are. -/
theorem exists_mapM_eq_ok_iff {entries : List Entry} :
    (∃ values, entries.mapM read = .ok values) ↔
      ∀ entry ∈ entries, ∃ value, read entry = .ok value := by
  induction entries with
  | nil => simp [pure, Except.pure]
  | cons entry entries ih =>
      rw [List.forall_mem_cons, ← ih, List.mapM_cons]
      cases read entry with
      | error failure => simp [bind, Except.bind]
      | ok value =>
          cases entries.mapM read with
          | error failure => simp [bind, Except.bind]
          | ok values => simp [bind, Except.bind, pure, Except.pure]

/-- A list fails as its first entry that fails. -/
theorem mapM_eq_error_iff {entries : List Entry} {failure : Failure} :
    entries.mapM read = .error failure ↔
      ∃ before entry after,
        entries = before ++ entry :: after ∧
          (∀ earlier ∈ before, ∃ value, read earlier = .ok value) ∧
          read entry = .error failure := by
  constructor
  · intro failed
    induction entries with
    | nil => cases failed
    | cons entry entries ih =>
        rw [List.mapM_cons] at failed
        cases first : read entry with
        | error failure' =>
            rw [first] at failed
            cases failed
            exact ⟨[], entry, entries, rfl, nofun, first⟩
        | ok value =>
            have later : entries.mapM read = .error failure := by
              rw [first] at failed
              cases others : entries.mapM read with
              | error failure' =>
                  rw [others] at failed
                  exact failed
              | ok values =>
                  rw [others] at failed
                  cases failed
            obtain ⟨before, entry', after, rfl, passed, here⟩ := ih later
            refine ⟨entry :: before, entry', after, rfl, ?_, here⟩
            exact List.forall_mem_cons.2 ⟨⟨value, first⟩, passed⟩
  · rintro ⟨before, entry, after, rfl, passed, failed⟩
    induction before with
    | nil =>
        rw [List.nil_append, List.mapM_cons, failed]
        rfl
    | cons earlier before ih =>
        obtain ⟨⟨value, first⟩, passed⟩ := List.forall_mem_cons.1 passed
        rw [List.cons_append, List.mapM_cons, first]
        rw [ih passed]
        rfl

end SqlAnywhere.Traversal
