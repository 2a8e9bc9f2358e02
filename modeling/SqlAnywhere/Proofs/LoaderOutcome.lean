import SqlAnywhere.Catalog.Loader
import SqlAnywhere.Proofs.Outcome
import SqlAnywhere.Proofs.TableKey

/-!
# Outcomes of the loader

What each stage of loading a table makes of the answer to its question, and
from it the outcome of each part of the loader.  The loader leaves the memory
as it is and goes by the answers alone.
-/

namespace SqlAnywhere.Loader

/-! ## Answers -/

/-- The number of owners of a bare name that an answer tells. -/
def ownersIn (name : Text) (answer : Answer) : Except QueryError Int64 := do
  let count ← answer >>= Program.scalarOf
  match count.toInt64? with
  | none => .error (.unexpectedAnswer (.ownerCount name count))
  | some owners => .ok owners

/-- An answer tells a number of owners if its first value is one. -/
theorem ownersIn_eq_ok_iff (name : Text) (answer : Answer) (owners : Int64) :
    ownersIn name answer = .ok owners ↔
      ∃ value,
        answer >>= Program.scalarOf = .ok value ∧
          value.toInt64? = some owners := by
  rw [ownersIn]
  cases answer >>= Program.scalarOf with
  | error error => simp [bind, Except.bind]
  | ok value =>
      simp only [bind, Except.bind, Except.ok.injEq, exists_eq_left']
      cases value.toInt64? <;> simp

/-- The columns of a primary key that an answer lists. -/
def primaryKeyIn (answer : Answer) : Except QueryError (List Text) := do
  let rows ← answer
  rows.mapM fun row => Row.trimmedText row "field_name".toList

/-- The columns that rows describe. -/
def columnsOfRows (primaryKey : List Text) (rows : List Row) :
    Except QueryError (List Column) :=
  rows.mapM fun row => (ColumnRow.ofRow row).map (·.toColumn primaryKey)

/-- The columns that an answer describes. -/
def columnsIn (primaryKey : List Text) (answer : Answer) :
    Except QueryError (List Column) := do
  let rows ← answer
  columnsOfRows primaryKey rows

/-- The foreign keys that an answer describes. -/
def foreignKeysIn (family : ServerFamily) (answer : Answer) :
    Except QueryError (List ForeignKey) := do
  let rows ← answer
  ForeignKey.ofRows family.foreignKeyGrain rows

/-! ## Stages -/

section Outcomes

variable {Memory : Type}
  {server : Server} {memory : Memory} {past : List Call}

open Program

theorem outcome_ownerCount (name : Text) :
    (ownerCount name).outcome server memory past =
      ⟨ownersIn name (server past (.ownerCount name)), memory,
        [.ownerCount name]⟩ := by
  rw [ownerCount, outcome_bind, outcome_scalar, ownersIn]
  cases server past (.ownerCount name) >>= scalarOf with
  | error error => rfl
  | ok value =>
      rw [Outcome.andThen_ok]
      change _ = Outcome.mk (match value.toInt64? with
        | none => _
        | some owners => .ok owners) _ _
      cases value.toInt64? with
      | none => rfl
      | some owners => rfl

/--
Checking the owners fails with what is wrong with the answer, or with its
number if that is above one.
-/
theorem outcome_checkOwners (table : TableName) :
    (checkOwners table).outcome server memory past =
      match ownersIn table.name (server past (.ownerCount table.name)) with
      | .error error =>
          ⟨.error (.ofTable table.fullName error), memory,
            [.ownerCount table.name]⟩
      | .ok owners =>
          if 1 < owners then
            ⟨.error (.ambiguousName table.name owners), memory,
              [.ownerCount table.name]⟩
          else
            ⟨.ok (), memory, [.ownerCount table.name]⟩ := by
  rw [checkOwners, outcome_bind, outcome_mapFailure, outcome_ownerCount]
  cases ownersIn table.name (server past (.ownerCount table.name)) with
  | error error => rfl
  | ok owners =>
      simp only [Outcome.withResult, Except.mapError, Outcome.andThen_ok]
      split <;> rfl

theorem outcome_primaryKey (family : ServerFamily) (table : TableName) :
    (primaryKey family table).outcome server memory past =
      ⟨primaryKeyIn (server past (callAbout .primaryKeys family table)),
        memory, [callAbout .primaryKeys family table]⟩ := by
  rw [primaryKey, outcome_bind, outcome_rows]
  cases server past (callAbout .primaryKeys family table) with
  | error error => rfl
  | ok rows =>
      rw [Outcome.andThen_ok, outcome_ofExcept]
      rfl

/-- Noting what is worth noting about a type shows no call. -/
theorem outcome_noteType (typeName : Text) :
    (noteType typeName).outcome server memory past =
      ⟨.ok (), memory, []⟩ := by
  rw [noteType]
  split <;> rfl

/--
Reading columns gives what their rows describe, up to the first row that
cannot be read.
-/
theorem outcome_readColumns (primaryKey : List Text) (rows : List Row) :
    (readColumns primaryKey rows).outcome server memory past =
      ⟨columnsOfRows primaryKey rows, memory, []⟩ := by
  induction rows generalizing past with
  | nil => rfl
  | cons row rows same =>
      rw [readColumns, outcome_bind, outcome_ofExcept, columnsOfRows,
        List.mapM_cons]
      cases ColumnRow.ofRow row with
      | error error => rfl
      | ok first =>
          rw [Outcome.andThen_ok, Outcome.following_nil, outcome_bind,
            outcome_noteType, Outcome.andThen_ok, Outcome.following_nil,
            outcome_bind, same, columnsOfRows]
          cases rows.mapM
              fun row => (ColumnRow.ofRow row).map (·.toColumn primaryKey) with
          | error error => rfl
          | ok columns => rfl

theorem outcome_columns (family : ServerFamily) (table : TableName)
    (primaryKey : List Text) :
    (columns family table primaryKey).outcome server memory past =
      ⟨columnsIn primaryKey (server past (callAbout .columns family table)),
        memory, [callAbout .columns family table]⟩ := by
  rw [columns, outcome_bind, outcome_rows]
  cases server past (callAbout .columns family table) with
  | error error => rfl
  | ok rows =>
      rw [Outcome.andThen_ok, outcome_readColumns]
      rfl

theorem outcome_foreignKeys (family : ServerFamily) (table : TableName) :
    (foreignKeys family table).outcome server memory past =
      ⟨foreignKeysIn family
          (server past (callAbout .foreignKeys family table)),
        memory, [callAbout .foreignKeys family table]⟩ := by
  rw [foreignKeys, outcome_bind, outcome_rows]
  cases server past (callAbout .foreignKeys family table) with
  | error error => rfl
  | ok rows =>
      rw [Outcome.andThen_ok, outcome_ofExcept]
      rfl

theorem outcome_complete (family : ServerFamily) (name : TableName)
    (primaryKey : List Text) (columns : List Column) :
    (complete family name primaryKey columns).outcome server memory past =
      ⟨match foreignKeysIn family
          (server past (callAbout .foreignKeys family name)) with
        | .error error => .error (.ofTable name.fullName error)
        | .ok keys => .ok (Table.ofColumns name primaryKey columns keys),
        memory, [callAbout .foreignKeys family name]⟩ := by
  rw [complete, outcome_bind, outcome_mapFailure, outcome_foreignKeys]
  cases foreignKeysIn family
      (server past (callAbout .foreignKeys family name)) with
  | error error => rfl
  | ok keys => rfl

/--
Loading a table whose name is settled goes through the stages, each of which
can be the last: a primary key that cannot be read, columns that cannot be
read or are none, and the foreign keys.
-/
theorem outcome_describe (family : ServerFamily) (name : TableName) :
    (describe family name).outcome server memory past =
      let keyCall := callAbout .primaryKeys family name
      let columnsCall := callAbout .columns family name
      let foreignCall := callAbout .foreignKeys family name
      match primaryKeyIn (server past keyCall) with
      | .error error =>
          ⟨.error (.ofTable name.fullName error), memory, [keyCall]⟩
      | .ok primaryKey =>
          match columnsIn primaryKey
              (server (past ++ [keyCall]) columnsCall) with
          | .error _ | .ok [] => ⟨.ok none, memory, [keyCall, columnsCall]⟩
          | .ok (first :: others) =>
              ⟨match foreignKeysIn family
                  (server (past ++ [keyCall, columnsCall]) foreignCall) with
                | .error error => .error (.ofTable name.fullName error)
                | .ok keys =>
                    .ok (some (Table.ofColumns name primaryKey
                      (first :: others) keys)),
                memory, [keyCall, columnsCall, foreignCall]⟩ := by
  rw [describe, outcome_bind, outcome_mapFailure, outcome_primaryKey]
  simp only
  cases primaryKeyIn (server past (callAbout .primaryKeys family name)) with
  | error error => rfl
  | ok primaryKey =>
      simp only [Outcome.withResult, Except.mapError, Outcome.andThen_ok]
      rw [outcome_bind, outcome_attempt, outcome_columns]
      simp only [Outcome.withResult, Outcome.andThen_ok]
      cases columnsIn primaryKey
          (server (past ++ [callAbout .primaryKeys family name])
            (callAbout .columns family name)) with
      | error error => rfl
      | ok columns =>
          cases columns with
          | nil => rfl
          | cons first others =>
              simp only [outcome_bind, outcome_complete, List.append_assoc,
                List.cons_append, List.nil_append]
              cases foreignKeysIn family
                  (server
                    (past ++ [callAbout .primaryKeys family name,
                      callAbout .columns family name])
                    (callAbout .foreignKeys family name)) with
              | error error => rfl
              | ok keys => rfl

/-- The table names that an answer lists. -/
def tableNamesIn (answer : Answer) : Except CatalogError (List Text) := do
  let rows ← answer.mapError .connection
  (rows.mapM fun row => Row.trimmedText row "table_name".toList).mapError
    .connection

/-- Listing tables shows one call, for the owner given or the default one. -/
theorem outcome_tableNames (family : ServerFamily)
    (defaultOwner owner : Text) :
    (tableNames family defaultOwner owner).outcome server memory past =
      let call := Call.tableNames family
        (if (Text.trim owner).isEmpty then defaultOwner else Text.trim owner)
      ⟨tableNamesIn (server past call), memory, [call]⟩ := by
  rw [tableNames, outcome_bind, outcome_mapFailure, outcome_rows]
  simp only
  cases server past (.tableNames family
      (if (Text.trim owner).isEmpty then defaultOwner
        else Text.trim owner)) with
  | error error => rfl
  | ok rows =>
      rw [tableNamesIn, Outcome.withResult, Except.mapError,
        Outcome.andThen_ok, outcome_bind, outcome_ofExcept]
      change _ = Outcome.mk
        ((rows.mapM fun row =>
          Row.trimmedText row "table_name".toList).mapError
            CatalogError.connection) _ _
      cases rows.mapM fun row => Row.trimmedText row "table_name".toList with
      | error error => rfl
      | ok names => rfl

/-- A name with an owner is loaded without counting owners. -/
theorem outcome_load_of_not_isBare
    (family : ServerFamily) (defaultOwner : Text) {reference : Text}
    (qualified : ¬ TableName.IsBare reference) :
    (load family defaultOwner reference).outcome server memory past =
      (describe family (TableName.resolve reference defaultOwner)).outcome
        server memory past := by
  have named : (TableName.split reference).1.isNone = false :=
    Bool.eq_false_iff.2 fun bare => qualified (Option.isNone_iff_eq_none.1 bare)
  rw [load]
  simp only [named, Bool.false_eq_true, if_false]

/--
A name without an owner is loaded after counting its owners, unless there are
several.
-/
theorem outcome_load_of_isBare
    (family : ServerFamily) (defaultOwner : Text) {reference : Text}
    (bare : TableName.IsBare reference) :
    (load family defaultOwner reference).outcome server memory past =
      let name := TableName.resolve reference defaultOwner
      let count := Call.ownerCount name.name
      match ownersIn name.name (server past count) with
      | .error error =>
          ⟨.error (.ofTable name.fullName error), memory, [count]⟩
      | .ok owners =>
          if 1 < owners then
            ⟨.error (.ambiguousName name.name owners), memory, [count]⟩
          else
            ((describe family name).outcome server memory
              (past ++ [count])).following [count] := by
  have nameless : (TableName.split reference).1.isNone = true :=
    Option.isNone_iff_eq_none.2 bare
  rw [load]
  simp only [nameless, if_true]
  rw [outcome_bind, outcome_checkOwners]
  cases ownersIn (TableName.resolve reference defaultOwner).name
      (server past
        (.ownerCount (TableName.resolve reference defaultOwner).name)) with
  | error error => rfl
  | ok owners =>
      simp only
      split <;> rfl

/-- Loading a table always asks the server. -/
theorem calls_describe_ne_nil (family : ServerFamily) (name : TableName) :
    ((describe family name).outcome server memory past).calls ≠ [] := by
  rw [outcome_describe]
  simp only
  split
  · exact List.cons_ne_nil _ _
  · split <;> exact List.cons_ne_nil _ _

theorem calls_load_ne_nil
    (family : ServerFamily) (defaultOwner reference : Text) :
    ((load family defaultOwner reference).outcome
      server memory past).calls ≠ [] := by
  by_cases bare : TableName.IsBare reference
  · rw [outcome_load_of_isBare family defaultOwner bare]
    simp only
    split
    · exact List.cons_ne_nil _ _
    · split <;> exact List.cons_ne_nil _ _
  · rw [outcome_load_of_not_isBare family defaultOwner bare]
    exact calls_describe_ne_nil family _

end Outcomes

/-! ## The memory plays no part -/

section Memories

variable {Memory Other : Type} {server : Server} {past : List Call}

theorem outcome_describe_withMemory
    (memory : Memory) (other : Other)
    (family : ServerFamily) (name : TableName) :
    (describe family name).outcome server memory past =
      ((describe family name).outcome server other past).withMemory
        memory := by
  rw [outcome_describe, outcome_describe]
  simp only
  split
  · rfl
  · split <;> rfl

/--
The loader leaves the memory as it is, and gives the same with any other one.
-/
theorem outcome_load_withMemory
    (memory : Memory) (other : Other)
    (family : ServerFamily) (defaultOwner reference : Text) :
    (load family defaultOwner reference).outcome server memory past =
      ((load family defaultOwner reference).outcome
        server other past).withMemory memory := by
  by_cases bare : TableName.IsBare reference
  · rw [outcome_load_of_isBare family defaultOwner bare,
      outcome_load_of_isBare family defaultOwner bare]
    simp only
    split
    · rfl
    · split
      · rfl
      · rw [outcome_describe_withMemory memory other]
        rfl
  · rw [outcome_load_of_not_isBare family defaultOwner bare,
      outcome_load_of_not_isBare family defaultOwner bare,
      outcome_describe_withMemory memory other]

end Memories

end SqlAnywhere.Loader
