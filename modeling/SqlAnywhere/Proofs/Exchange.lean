import SqlAnywhere.Proofs.LoaderCourse

/-!
# Exchanges with a server

A call and its answer make up an exchange.  An exchange fails where the
statement fails or where its rows are not what the question is read for.  A
load whose exchange fails gives no table: where the columns are asked for, it
takes the table for one that does not exist, and everywhere else it fails
itself.
-/

namespace SqlAnywhere

/-- Whether what a question is read for is found in rows. -/
def CatalogQuery.Reads : CatalogQuery → List Row → Prop
  | .version, rows =>
      ∃ value family,
        Program.scalarOf rows = .ok value ∧
          ServerFamily.ofVersion value.display = .ok family
  | .ownerCount, rows =>
      ∃ value owners,
        Program.scalarOf rows = .ok value ∧ value.toInt64? = some owners
  | .primaryKeys _, rows =>
      ∀ row ∈ rows, ∃ name, Row.trimmedText row "field_name".toList = .ok name
  | .columns _, rows =>
      ∀ row ∈ rows, ∃ column, ColumnRow.ofRow row = .ok column
  | .foreignKeys family, rows =>
      ∀ row ∈ rows, ∃ addition,
        ForeignKey.readRow family.foreignKeyGrain row = .ok addition
  | .tableNames _, rows =>
      ∀ row ∈ rows, ∃ name, Row.trimmedText row "table_name".toList = .ok name
  | .greatestKey _ _ _, rows => ∃ value, Program.scalarOf rows = .ok value

/-- A call with the answer to it. -/
structure Exchange where
  call : Call
  answer : Answer

/-- Whether a call is refused, or answered by rows that are not read. -/
def Exchange.Fails (exchange : Exchange) : Prop :=
  ∀ rows, exchange.answer = .ok rows → ¬ exchange.call.query.Reads rows

/-- A refused call fails. -/
theorem Exchange.fails_of_refused (call : Call) (error : QueryError) :
    Exchange.Fails ⟨call, .error error⟩ := by
  intro rows arrived
  cases arrived

/--
The exchanges that calls make up when they are put to a server one after the
other.
-/
def Server.exchanges (server : Server) (past : List Call) :
    List Call → List Exchange
  | [] => []
  | call :: calls =>
      ⟨call, server past call⟩ :: server.exchanges (past ++ [call]) calls

namespace Server

variable {server : Server} {past : List Call}

theorem exchanges_append (calls others : List Call) :
    server.exchanges past (calls ++ others) =
      server.exchanges past calls ++
        server.exchanges (past ++ calls) others := by
  induction calls generalizing past with
  | nil => simp [exchanges]
  | cons call calls ih => simp [exchanges, ih]

/-- The exchanges of the first calls are the first exchanges. -/
theorem exchanges_isPrefix {calls others : List Call}
    (first : calls <+: others) :
    server.exchanges past calls <+: server.exchanges past others := by
  obtain ⟨rest, rfl⟩ := first
  rw [exchanges_append]
  exact List.prefix_append _ _

theorem call_mem_of_mem_exchanges {calls : List Call} {exchange : Exchange}
    (member : exchange ∈ server.exchanges past calls) :
    exchange.call ∈ calls := by
  induction calls generalizing past with
  | nil => cases member
  | cons call calls ih =>
      rcases List.mem_cons.1 member with rfl | later
      · exact List.mem_cons_self
      · exact List.mem_cons_of_mem _ (ih later)

end Server

/-! ## The exchanges of a load -/

namespace Loader

/--
An answer that fails the question for the owners tells no number of them.
-/
theorem ownersIn_of_fails {parameters : List Parameter} {answer : Answer}
    (fails : Exchange.Fails ⟨⟨.ownerCount, parameters⟩, answer⟩)
    (name : Text) : ∃ error, ownersIn name answer = .error error := by
  cases counted : ownersIn name answer with
  | error error => exact ⟨error, rfl⟩
  | ok owners =>
      obtain ⟨value, first, number⟩ := (ownersIn_eq_ok_iff _ _ _).1 counted
      cases answer with
      | error error => cases first
      | ok rows => exact absurd ⟨value, owners, first, number⟩ (fails rows rfl)

namespace Inquiry

/-- The exchanges of a load that reaches all of its stages. -/
def exchanges (inquiry : Inquiry) : List Exchange :=
  (inquiry.owners.toList.map fun answer =>
      ⟨.ownerCount inquiry.name.name, answer⟩) ++
    [⟨inquiry.about .primaryKeys, inquiry.primaryKey⟩,
      ⟨inquiry.about .columns, inquiry.columns⟩,
      ⟨inquiry.about .foreignKeys, inquiry.foreignKeys⟩]

section Fails

variable {inquiry : Inquiry}

/-- The question for the primary key fails where its stage does not pass. -/
theorem fails_primaryKeys_iff :
    Exchange.Fails ⟨inquiry.about .primaryKeys, inquiry.primaryKey⟩ ↔
      ¬ inquiry.KeyPasses := by
  rw [KeyPasses, not_exists]
  exact forall_congr' fun rows => not_and.symm

/-- The question for the foreign keys fails where its stage does not pass. -/
theorem fails_foreignKeys_iff :
    Exchange.Fails ⟨inquiry.about .foreignKeys, inquiry.foreignKeys⟩ ↔
      ¬ inquiry.ForeignKeysPass := by
  rw [ForeignKeysPass, not_exists]
  exact forall_congr' fun rows => not_and.symm

/--
The stage of the columns does not pass where the question for them fails.
-/
theorem not_columnsPass_of_fails
    (fails : Exchange.Fails ⟨inquiry.about .columns, inquiry.columns⟩) :
    ¬ inquiry.ColumnsPass := by
  rintro ⟨rows, arrived, -, read⟩
  exact fails rows arrived read

variable {calls : List Call} {result : Except CatalogError (Option Table)}

/--
A course on which the question for the columns fails ends without a table.
-/
theorem Course.result_of_columns_fail (course : inquiry.Course calls result)
    (asked : inquiry.about .columns ∈ calls)
    (fails : Exchange.Fails ⟨inquiry.about .columns, inquiry.columns⟩) :
    result = .ok none := by
  obtain ⟨owners, key⟩ := course.columns_mem_iff.1 asked
  have lacking : inquiry.ColumnsLack :=
    inquiry.columnsLack_iff.2 (not_columnsPass_of_fails fails)
  exact course.absent_iff.2 ⟨owners, key, lacking⟩

/-- A course on which another question fails ends with a failure. -/
theorem Course.exists_error_of_fails (course : inquiry.Course calls result)
    {exchange : Exchange}
    (member : exchange ∈ inquiry.exchanges)
    (asked : exchange.call ∈ calls)
    (other : ∀ family, exchange.call.query ≠ .columns family)
    (fails : exchange.Fails) :
    ∃ error, result = .error error := by
  have ends {error : QueryError} (stage : inquiry.FailsWith error) :
      ∃ error, result = .error error :=
    ⟨_, course.result_of_failsWith stage⟩
  rcases List.mem_append.1 member with counting | about
  · obtain ⟨answer, given, rfl⟩ := List.mem_map.1 counting
    obtain ⟨error, failed⟩ := ownersIn_of_fails fails inquiry.name.name
    exact ends (.owners (Option.mem_toList.1 given) failed)
  · simp only [List.mem_cons, List.not_mem_nil, or_false] at about
    rcases about with rfl | rfl | rfl
    · have owners := course.primaryKeys_mem_iff.1 asked
      have untold := fails_primaryKeys_iff.1 fails
      cases told : primaryKeyIn inquiry.primaryKey with
      | error error => exact ends (.primaryKey owners told)
      | ok key => exact absurd (inquiry.keyPasses_iff.2 ⟨key, told⟩) untold
    · exact absurd rfl (other inquiry.family)
    · obtain ⟨owners, key, columns⟩ := course.foreignKeys_mem_iff.1 asked
      have untold := fails_foreignKeys_iff.1 fails
      cases told : foreignKeysIn inquiry.family inquiry.foreignKeys with
      | error error => exact ends (.foreignKeys owners key columns told)
      | ok keys =>
          exact absurd (inquiry.foreignKeysPass_iff.2 ⟨keys, told⟩) untold

/-- Only one exchange of a load is about the columns. -/
theorem eq_of_mem_exchanges {exchange : Exchange} {family : ServerFamily}
    (member : exchange ∈ inquiry.exchanges)
    (columns : exchange.call.query = .columns family) :
    exchange = ⟨inquiry.about .columns, inquiry.columns⟩ := by
  rcases List.mem_append.1 member with counting | about
  · obtain ⟨answer, -, rfl⟩ := List.mem_map.1 counting
    cases columns
  · simp only [List.mem_cons, List.not_mem_nil, or_false] at about
    rcases about with rfl | rfl | rfl
    · cases columns
    · rfl
    · cases columns

end Fails

end Inquiry

/--
The answers of an inquiry are those that the server gives one after the
other.
-/
theorem exchanges_inquiryOf
    (server : Server) (past : List Call) (family : ServerFamily)
    (defaultOwner reference : Text) :
    let inquiry := inquiryOf server past family defaultOwner reference
    server.exchanges past
        (inquiry.counting ++
          [inquiry.about .primaryKeys, inquiry.about .columns,
            inquiry.about .foreignKeys]) =
      inquiry.exchanges := by
  simp only [inquiryOf]
  by_cases bare : TableName.IsBare reference <;>
    simp [bare, inquiryAbout, Inquiry.counting, Inquiry.exchanges,
      Inquiry.about, Server.exchanges]

/-- What a load asks and is answered is part of its inquiry. -/
theorem mem_exchanges_of_load {Memory : Type}
    {server : Server} {memory : Memory} {past : List Call}
    {family : ServerFamily} {defaultOwner reference : Text}
    {exchange : Exchange}
    (member :
      exchange ∈ server.exchanges past
        ((load family defaultOwner reference).outcome
          server memory past).calls) :
    exchange ∈
      (inquiryOf server past family defaultOwner reference).exchanges := by
  have course :=
    course_of_load server memory past family defaultOwner reference
  rw [← exchanges_inquiryOf]
  exact (Server.exchanges_isPrefix course.calls_isPrefix).subset member

end Loader

end SqlAnywhere
