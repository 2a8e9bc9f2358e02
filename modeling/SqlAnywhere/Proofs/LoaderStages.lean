import SqlAnywhere.Proofs.LoaderOutcome
import SqlAnywhere.Proofs.Traversal

/-!
# The stages of a load

A load asks about the owners of a name that has none, about the primary key,
the columns and the foreign keys.  Each answer lets the load pass to the next
question or ends it.  This module says what the answers have to be for that,
apart from the loader: by the rows that arrive and by which of them are read.
A stage either passes or ends the load, and what ends it excludes that it
passes.
-/

namespace SqlAnywhere

/-! ## Failures that name a table -/

namespace CatalogError

variable {table table' : Text} {error : QueryError}

/-- Failures that name a table are about a row of it or about a query. -/
theorem ne_ofTable {failure : CatalogError}
    (row : ∀ fault, failure ≠ .malformedRow table fault)
    (query : ∀ cause, failure ≠ .query table cause) :
    failure ≠ ofTable table error := by
  rintro rfl
  cases error with
  | malformedRow fault => exact row fault rfl
  | database | unboundParameter | unexpectedAnswer => exact query _ rfl

/-- A failure is about a row where the row could not be read. -/
theorem malformedRow_eq_ofTable_iff {fault : RowFault} :
    malformedRow table fault = ofTable table' error ↔
      error = .malformedRow fault ∧ table = table' := by
  cases error <;> simp [ofTable, eq_comm, and_comm]

/-- A failure is about a query where anything but a row is at fault. -/
theorem query_eq_ofTable_iff {cause : QueryError} :
    query table cause = ofTable table' error ↔
      error = cause ∧ (∀ fault, cause ≠ .malformedRow fault) ∧
        table = table' := by
  constructor
  · intro equal
    cases error with
    | malformedRow => cases equal
    | database | unboundParameter | unexpectedAnswer =>
        cases equal
        exact ⟨rfl, nofun, rfl⟩
  · rintro ⟨rfl, other, rfl⟩
    cases error with
    | malformedRow fault => exact absurd rfl (other fault)
    | database | unboundParameter | unexpectedAnswer => rfl

end CatalogError

namespace Loader

/-! ## What the stages ask for and are answered -/

/--
What a load is about, and what the server answers at each stage if that is
reached.
-/
structure Inquiry where
  family : ServerFamily
  name : TableName
  /-- The answer about the owners of a name that has none. -/
  owners : Option Answer
  primaryKey : Answer
  columns : Answer
  foreignKeys : Answer

namespace Inquiry

/-- The question about the owners, for a name that has none. -/
def counting (inquiry : Inquiry) : List Call :=
  if inquiry.owners.isSome then [.ownerCount inquiry.name.name] else []

/-- A question about the table that is loaded. -/
def about (inquiry : Inquiry) (query : ServerFamily → CatalogQuery) : Call :=
  callAbout query inquiry.family inquiry.name

/-- The number of owners that a name without one was counted to have. -/
def Counted (inquiry : Inquiry) (owners : Int64) : Prop :=
  ∃ answer ∈ inquiry.owners, ownersIn inquiry.name.name answer = .ok owners

/-- The name has an owner, or is counted to have one at most. -/
def OwnersPass (inquiry : Inquiry) : Prop :=
  inquiry.owners.isSome → ∃ owners, inquiry.Counted owners ∧ ¬ 1 < owners

/-- The rows about the primary key arrive, and each of them names a column. -/
def KeyPasses (inquiry : Inquiry) : Prop :=
  ∃ rows, inquiry.primaryKey = .ok rows ∧
    ∀ row ∈ rows, ∃ name, Row.trimmedText row "field_name".toList = .ok name

/--
The rows about the columns arrive, are not none, and each of them is read.
-/
def ColumnsPass (inquiry : Inquiry) : Prop :=
  ∃ rows, inquiry.columns = .ok rows ∧ rows ≠ [] ∧
    ∀ row ∈ rows, ∃ column, ColumnRow.ofRow row = .ok column

/--
The question about the columns fails, has a row that is not read, or finds
none.
-/
def ColumnsLack (inquiry : Inquiry) : Prop :=
  (∃ error, inquiry.columns = .error error) ∨
    (∃ rows, inquiry.columns = .ok rows ∧
      ∃ row ∈ rows, ∃ error, ColumnRow.ofRow row = .error error) ∨
    inquiry.columns = .ok []

/-- The rows about the foreign keys arrive, and each of them is read. -/
def ForeignKeysPass (inquiry : Inquiry) : Prop :=
  ∃ rows, inquiry.foreignKeys = .ok rows ∧
    ∀ row ∈ rows, ∃ addition,
      ForeignKey.readRow inquiry.family.foreignKeyGrain row = .ok addition

/-- The failure of a stage that all earlier stages let the load reach. -/
inductive FailsWith (inquiry : Inquiry) (error : QueryError) : Prop where
  | owners {answer : Answer}
      (asked : inquiry.owners = some answer)
      (failed : ownersIn inquiry.name.name answer = .error error)
  | primaryKey
      (owners : inquiry.OwnersPass)
      (failed : primaryKeyIn inquiry.primaryKey = .error error)
  | foreignKeys
      (owners : inquiry.OwnersPass)
      (key : inquiry.KeyPasses)
      (columns : inquiry.ColumnsPass)
      (failed :
        foreignKeysIn inquiry.family inquiry.foreignKeys = .error error)

variable (inquiry : Inquiry)

/-! ## Stages that pass and stages that end the load -/

/-- A name is counted to one number. -/
theorem counted_inj {owners owners' : Int64}
    (first : inquiry.Counted owners) (second : inquiry.Counted owners') :
    owners = owners' := by
  obtain ⟨answer, member, counted⟩ := first
  obtain ⟨answer', member', counted'⟩ := second
  obtain rfl := Option.mem_unique member member'
  rw [counted] at counted'
  cases counted'
  rfl

/-- A name that several owners have does not pass. -/
theorem not_ownersPass_of_several {owners : Int64}
    (counted : inquiry.Counted owners) (several : 1 < owners) :
    ¬ inquiry.OwnersPass := by
  intro pass
  have asked : inquiry.owners.isSome := by
    obtain ⟨answer, member, -⟩ := counted
    exact Option.isSome_of_mem member
  obtain ⟨owners', counted', single⟩ := pass asked
  rw [inquiry.counted_inj counted counted'] at several
  exact single several

/-- A name whose owners could not be counted has no number of them. -/
theorem not_counted_of_failed {answer : Answer} {error : QueryError}
    (asked : inquiry.owners = some answer)
    (failed : ownersIn inquiry.name.name answer = .error error)
    (owners : Int64) : ¬ inquiry.Counted owners := by
  rintro ⟨answer', member, counted⟩
  obtain rfl : answer = answer' := Option.mem_unique asked member
  rw [failed] at counted
  cases counted

/-- A name whose owners could not be counted does not pass. -/
theorem not_ownersPass_of_failed {answer : Answer} {error : QueryError}
    (asked : inquiry.owners = some answer)
    (failed : ownersIn inquiry.name.name answer = .error error) :
    ¬ inquiry.OwnersPass := by
  intro pass
  have present : inquiry.owners.isSome := by
    rw [asked]
    rfl
  obtain ⟨owners, counted, -⟩ := pass present
  exact inquiry.not_counted_of_failed asked failed owners counted

/-- The stage of the primary key passes where its answer gives one. -/
theorem keyPasses_iff :
    inquiry.KeyPasses ↔ ∃ key, primaryKeyIn inquiry.primaryKey = .ok key := by
  rw [KeyPasses]
  cases inquiry.primaryKey with
  | error error => simp [primaryKeyIn, bind, Except.bind]
  | ok rows =>
      simp only [Except.ok.injEq, exists_eq_left']
      exact Traversal.exists_mapM_eq_ok_iff.symm

/-- The stage of the foreign keys passes where its answer gives them. -/
theorem foreignKeysPass_iff :
    inquiry.ForeignKeysPass ↔
      ∃ keys, foreignKeysIn inquiry.family inquiry.foreignKeys = .ok keys := by
  rw [ForeignKeysPass]
  cases inquiry.foreignKeys with
  | error error => simp [foreignKeysIn, bind, Except.bind]
  | ok rows =>
      simp only [Except.ok.injEq, exists_eq_left']
      rw [← Traversal.exists_mapM_eq_ok_iff]
      simp only [foreignKeysIn, ForeignKey.ofRows, bind, Except.bind]
      cases rows.mapM
          (ForeignKey.readRow inquiry.family.foreignKeyGrain) with
      | error error => simp
      | ok additions => simp [pure, Except.pure]

/-- Columns are lacking exactly where their stage does not pass. -/
theorem columnsLack_iff : inquiry.ColumnsLack ↔ ¬ inquiry.ColumnsPass := by
  rw [ColumnsLack, ColumnsPass]
  cases inquiry.columns with
  | error error => simp
  | ok rows =>
      have unread (row : Row) :
          (∃ error, ColumnRow.ofRow row = .error error) ↔
            ¬ ∃ column, ColumnRow.ofRow row = .ok column := by
        cases ColumnRow.ofRow row <;> simp
      simp only [unread]
      simp only [reduceCtorEq, exists_false, false_or, Except.ok.injEq,
        exists_eq_left']
      constructor
      · rintro (⟨row, member, fault⟩ | rfl) ⟨some, all⟩
        · exact fault (all row member)
        · exact some rfl
      · intro lacking
        by_cases none : rows = []
        · exact .inr none
        · left
          by_contra every
          refine lacking ⟨none, ?_⟩
          intro row member
          by_contra fault
          exact every ⟨row, member, fault⟩

/--
The stage of the columns passes where its answer gives at least one of them.
-/
theorem columnsPass_iff (key : List Text) :
    inquiry.ColumnsPass ↔
      ∃ first others, columnsIn key inquiry.columns = .ok (first :: others) := by
  rw [ColumnsPass]
  cases inquiry.columns with
  | error error => simp [columnsIn, bind, Except.bind]
  | ok rows =>
      have read (row : Row) :
          (∃ column, ColumnRow.ofRow row = .ok column) ↔
            ∃ column,
              (ColumnRow.ofRow row).map (·.toColumn key) = .ok column := by
        cases ColumnRow.ofRow row <;> simp [Except.map]
      simp only [Except.ok.injEq, exists_eq_left', read,
        ← Traversal.exists_mapM_eq_ok_iff]
      change _ ↔ ∃ first others, columnsOfRows key rows = .ok (first :: others)
      rw [columnsOfRows]
      cases all : rows.mapM
          fun row => (ColumnRow.ofRow row).map (·.toColumn key) with
      | error error => simp
      | ok columns =>
          have length := (Traversal.mapM_eq_ok_iff.1 all).length_eq
          cases columns with
          | nil =>
              have none : rows = [] := List.length_eq_zero_iff.1 length
              simp [none]
          | cons first others =>
              have some : rows ≠ [] := by
                rintro rfl
                cases length
              simp [some]

end Inquiry

end Loader

end SqlAnywhere
