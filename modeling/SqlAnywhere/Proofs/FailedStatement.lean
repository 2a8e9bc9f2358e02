import SqlAnywhere.Proofs.Exchange
import SqlAnywhere.Proofs.FailedOperation

/-!
# Statements that fail while a table is loaded

A load asks for the version, if the family is not known, and then goes through
the stages of the loader.  Where the columns cannot be read the table counts as
one that does not exist, and that is remembered for as long as the cache keeps
it.  No other failure is: the load fails, nothing is remembered under its key,
and the next load asks again.
-/

namespace SqlAnywhere.Session

open Program TableName

variable {Cache : Type} [TableCache Cache]

variable {server : Server} {session : Session Cache}
  {memory : Memory Cache} {past : List Call} {reference : Text}

/-! ## The exchanges of a load through a session -/

/-- A load that asks the server has no entry to give. -/
theorem outcome_table_of_mem_exchanges {exchange : Exchange}
    (member :
      exchange ∈ server.exchanges past
        ((session.table reference).outcome server memory past).calls) :
    (session.table reference).outcome server memory past =
      (session.fetchTable reference).outcome server memory past := by
  cases known : memory.find? (session.key reference) with
  | none => exact outcome_table_of_find?_none session reference known
  | some table =>
      rw [outcome_table_of_find?_some session reference known] at member
      cases member

/--
A load exchanges the version, which fails where no family is told, or belongs
to the loader.
-/
theorem mem_exchanges_fetchTable {exchange : Exchange}
    (member :
      exchange ∈ server.exchanges past
        ((session.fetchTable reference).outcome server memory past).calls) :
    (exchange = ⟨.version, server past .version⟩ ∧ memory.family = none) ∨
      ∃ family,
        familyFrom memory (server past .version) = .ok family ∧
          exchange ∈ server.exchanges (past ++ familyCalls memory)
            (session.loading reference server (past ++ familyCalls memory)
              family).calls := by
  have version
      (asked : exchange ∈ server.exchanges past (familyCalls memory)) :
      exchange = ⟨.version, server past .version⟩ ∧
        memory.family = none := by
    rw [familyCalls] at asked
    cases known : memory.family with
    | some family =>
        rw [known] at asked
        cases asked
    | none =>
        rw [known] at asked
        exact ⟨List.mem_singleton.1 asked, rfl⟩
  rw [calls_fetchTable] at member
  cases found : familyFrom memory (server past .version) with
  | error error =>
      rw [found] at member
      exact .inl (version member)
  | ok family =>
      simp only [found] at member
      rw [Server.exchanges_append] at member
      rcases List.mem_append.1 member with asked | loaded
      · exact .inl (version asked)
      · exact .inr ⟨family, rfl, loaded⟩

/-- An answer that fails the question for the version tells no family. -/
theorem familyIn_of_fails {answer : Answer}
    (fails : Exchange.Fails ⟨.version, answer⟩) :
    ∃ error, familyIn answer = .error error := by
  rw [familyIn]
  cases answer with
  | error error => exact ⟨_, rfl⟩
  | ok rows =>
      cases first : scalarOf rows with
      | error error =>
          refine ⟨.connection error, ?_⟩
          simp [bind, Except.bind, first]
      | ok value =>
          cases told : ServerFamily.ofVersion value.display with
          | error error =>
              refine ⟨error, ?_⟩
              simp [bind, Except.bind, first, told]
          | ok family =>
              exact absurd ⟨value, family, first, told⟩ (fails rows rfl)

/--
A load on which a question other than that for the columns fails has no
result.
-/
theorem fails_of_exchange {exchange : Exchange}
    (member :
      exchange ∈ server.exchanges past
        ((session.table reference).outcome server memory past).calls)
    (other : ∀ family, exchange.call.query ≠ .columns family)
    (fails : exchange.Fails) :
    ((session.table reference).outcome server memory past).Fails := by
  have fetched := outcome_table_of_mem_exchanges member
  rw [fetched] at member ⊢
  rw [Outcome.Fails, result_fetchTable]
  rcases mem_exchanges_fetchTable member with
    ⟨rfl, unknown⟩ | ⟨family, found, asked⟩
  · obtain ⟨error, failed⟩ := familyIn_of_fails fails
    refine ⟨error, ?_⟩
    rw [familyFrom, unknown]
    simp only [failed]
    rfl
  · obtain ⟨error, failed⟩ :=
      (Loader.course_of_load server () _ family session.defaultOwner
        reference).exists_error_of_fails
          (Loader.mem_exchanges_of_load asked)
          (Server.call_mem_of_mem_exchanges asked) other fails
    refine ⟨error, ?_⟩
    rw [found]
    exact failed

/--
A load on which the question for the columns fails takes the table for one
that does not exist, and remembers that.
-/
theorem absent_of_columns_fail
    {exchange : Exchange} {family : ServerFamily}
    (member :
      exchange ∈ server.exchanges past
        ((session.table reference).outcome server memory past).calls)
    (columns : exchange.call.query = .columns family)
    (fails : exchange.Fails) :
    let loading := (session.table reference).outcome server memory past
    loading.result = .ok none ∧
      loading.memory.tables =
        TableCache.insert memory.tables (session.key reference) none := by
  have fetched := outcome_table_of_mem_exchanges member
  rw [fetched] at member ⊢
  intro loading
  have absent : loading.result = .ok none := by
    rw [result_fetchTable]
    rcases mem_exchanges_fetchTable member with
      ⟨rfl, -⟩ | ⟨family, found, asked⟩
    · cases columns
    · obtain rfl :=
        Loader.Inquiry.eq_of_mem_exchanges
          (Loader.mem_exchanges_of_load asked) columns
      rw [found]
      exact
        (Loader.course_of_load server () _ family session.defaultOwner
          reference).result_of_columns_fail
            (Server.call_mem_of_mem_exchanges asked) fails
  refine ⟨absent, ?_⟩
  rw [tables_fetchTable, absent]

/-! ## What a later load finds -/

/--
A table is loaded from a stage without an entry for it if all stages of the
loader pass.
-/
theorem loaded_iff
    (unknown : memory.find? (session.key reference) = none)
    {family : ServerFamily}
    (found : familyFrom memory (server past .version) = .ok family) :
    let inquiry :=
      Loader.inquiryOf server (past ++ familyCalls memory) family
        session.defaultOwner reference
    (∃ table,
      ((session.table reference).outcome server memory past).result =
        .ok (some table)) ↔
      inquiry.OwnersPass ∧ inquiry.KeyPasses ∧ inquiry.ColumnsPass ∧
        inquiry.ForeignKeysPass := by
  intro inquiry
  rw [outcome_table_of_find?_none session reference unknown,
    result_fetchTable, found]
  exact
    (Loader.course_of_load server () _ family session.defaultOwner
      reference).loaded_iff

/-- A result that holds a table gives it. -/
theorem exists_table_of_isSome
    {result : Except CatalogError (Option Table)}
    (holds : result.toOption.join.isSome) :
    ∃ table, result = .ok (some table) := by
  rcases result with error | _ | table
  · cases holds
  · cases holds
  · exact ⟨table, rfl⟩

/--
A load on which a question fails, and the next load with its key.  If the
question is the one for the columns, the table counts as one that does not
exist, and that is put into the cache; the next load finds it there and asks
nothing, or finds nothing and asks the server.  If it is any other, the load
fails and leaves the tables; the next load asks the server, and gives the
table if all stages pass then.
-/
theorem entry_after_failed_statement
    (server : Server) (session : Session Cache) (stage : Stage Cache)
    (reference : Text) :
    let key := session.key reference
    let loading :=
      (session.table reference).outcome server stage.memory stage.past
    let exchanges := server.exchanges stage.past loading.calls
    (∀ exchange ∈ exchanges, exchange.Fails →
      (∀ family, exchange.call.query ≠ .columns family) →
        loading.Fails ∧ loading.memory.tables = stage.memory.tables) ∧
    (∀ exchange ∈ exchanges, exchange.Fails →
      ∀ family, exchange.call.query = .columns family →
        loading.result = .ok none ∧
          loading.memory.tables =
            TableCache.insert stage.memory.tables key none) ∧
    ∀ (later : List Operation) (second : Text), session.key second = key →
      (∀ operation ∈ later, ¬ operation.LoadsKey session key) →
        let left :=
          (stage.next server session (.load reference)).through
            server session later
        let again :=
          (session.table second).outcome server left.memory left.past
        (loading.Fails →
          again.calls ≠ [] ∧
          ∀ family,
            familyFrom left.memory (server left.past .version) = .ok family →
              let inquiry :=
                Loader.inquiryOf server (left.past ++ familyCalls left.memory)
                  family session.defaultOwner second
              ((∃ table, again.result = .ok (some table)) ↔
                inquiry.OwnersPass ∧ inquiry.KeyPasses ∧
                  inquiry.ColumnsPass ∧ inquiry.ForeignKeysPass)) ∧
        (loading.result = .ok none →
          left.memory.find? key = some none ∧
              again = ⟨.ok none, left.memory, []⟩ ∨
            left.memory.find? key = none ∧ again.calls ≠ []) := by
  intro key loading exchanges
  have remembers :
      (stage.next server session (.load reference)).memory =
        loading.memory :=
    Operation.memory_of_loads?_some rfl
  refine ⟨?_, ?_, ?_⟩
  · intro exchange member fails other
    have failed : loading.Fails := fails_of_exchange member other fails
    exact ⟨failed, (keepsMemory_table failed).tables⟩
  · intro exchange member fails family columns
    exact absent_of_columns_fail member columns fails
  · intro later second same idle left again
    have asks (unknown : left.memory.find? (session.key second) = none) :
        again.calls ≠ [] := by
      have fetched : again = _ :=
        outcome_table_of_find?_none session second unknown
      rw [fetched]
      exact calls_fetchTable_ne_nil session second
    constructor
    · intro failed
      have unknown : left.memory.find? (session.key second) = none := by
        rw [same]
        refine Stage.find?_through_eq_none ?_ idle
        rw [remembers, Memory.find?, (keepsMemory_table failed).tables]
        exact find?_eq_none_of_fails failed
      exact ⟨asks unknown, fun family found => loaded_iff unknown found⟩
    · intro absent
      cases found : left.memory.find? key with
      | none => exact .inr ⟨rfl, asks (by rw [same, found])⟩
      | some table =>
          -- What is still there is what the load put into the cache.
          have put := Stage.find?_of_through idle found
          rw [remembers] at put
          have kept :=
            (find?_table_of_ok session reference absent).resolve_right
              (Option.ne_none_iff_exists'.2 ⟨table, put⟩)
          obtain rfl : table = none := Option.some.inj (put.symm.trans kept)
          refine .inl ⟨rfl, outcome_table_of_find?_some session second ?_⟩
          rw [same, found]

/--
A load fails with the question for the foreign keys, and the next one, under
another spelling, asks again and finds a table, as all stages pass.
-/
theorem users_loaded_after_failed_statement :
    let session : Session TableEntries := ⟨"dbo".toList, none, 1024⟩
    let server : Server := serverOfUsers.refusingAt [3]
    let loading :=
      (session.table "dbo.Users".toList).outcome server session.start []
    let left :=
      ((Stage.initial session).next server session
        (.load "dbo.Users".toList)).through server session
          [.family, .tableNames []]
    let again :=
      (session.table "[Dbo].[users]".toList).outcome server left.memory
        left.past
    let inquiry :=
      Loader.inquiryOf server (left.past ++ familyCalls left.memory) .v12
        session.defaultOwner "[Dbo].[users]".toList
    loading.memory.tables = [] ∧
      again.calls ≠ [] ∧
      inquiry.ColumnsPass ∧ inquiry.ForeignKeysPass := by
  intro session server loading left again inquiry
  obtain ⟨failing, -, later⟩ :=
    entry_after_failed_statement server session (.initial session)
      "dbo.Users".toList
  have failed : loading.Fails := by decide +kernel
  have idle :
      ∀ operation ∈ [Operation.family, .tableNames []],
        ¬ operation.LoadsKey session (session.key "dbo.Users".toList) := by
    rintro operation member ⟨reference, loads, -⟩
    rcases List.mem_pair.1 member with rfl | rfl <;> cases loads
  obtain ⟨asks, loaded⟩ :=
    (later [.family, .tableNames []] "[Dbo].[users]".toList
      (by decide +kernel) idle).1 failed
  have found :
      familyFrom left.memory (server left.past .version) = .ok .v12 := by
    have known : left.memory.family = some .v12 := by decide +kernel
    exact familyFrom_of_known known _
  have given : ∃ table, again.result = .ok (some table) :=
    exists_table_of_isSome (by decide +kernel)
  obtain ⟨-, -, columns, foreignKeys⟩ := (loaded .v12 found).1 given
  have unread :
      (⟨.aboutTable (.foreignKeys .v12) "dbo".toList "Users".toList,
          .error (.database "connection lost".toList)⟩ : Exchange) ∈
        server.exchanges [] loading.calls := by
    have calls : loading.calls =
        [.version, .aboutTable (.primaryKeys .v12) "dbo".toList "Users".toList,
          .aboutTable (.columns .v12) "dbo".toList "Users".toList,
          .aboutTable (.foreignKeys .v12) "dbo".toList "Users".toList] := by
      decide +kernel
    rw [calls]
    simp only [Server.exchanges, List.mem_cons]
    exact .inr (.inr (.inr (.inl rfl)))
  have other (family : ServerFamily) :
      CatalogQuery.foreignKeys .v12 ≠ .columns family := by
    intro equal
    cases equal
  obtain ⟨-, tables⟩ := failing _ unread (Exchange.fails_of_refused _ _) other
  exact ⟨tables, asks, columns, foreignKeys⟩

/--
A refusal of the question for the columns leaves an entry: the table counts
as one that does not exist in a load that asks nothing, although the server
would describe it.
-/
theorem unread_columns_remembered_as_absence :
    let session : Session TableEntries := ⟨"dba".toList, some .v12, 1024⟩
    let server : Server := serverOfUsers.refusingAt [1]
    let loading :=
      (session.table "dba.Users".toList).outcome server session.start []
    let again :=
      (session.table "dba.Users".toList).outcome server loading.memory
        loading.calls
    let asking :=
      (session.fetchTable "dba.Users".toList).outcome server loading.memory
        loading.calls
    (∃ exchange ∈ server.exchanges [] loading.calls, exchange.Fails) ∧
      loading.memory.find? "DBA.USERS".toList = some none ∧
      again.calls = [] ∧ again.result = .ok none ∧
      ∃ table, asking.result = .ok (some table) := by
  intro session server loading again asking
  have calls : loading.calls =
      [.aboutTable (.primaryKeys .v12) "dba".toList "Users".toList,
        .aboutTable (.columns .v12) "dba".toList "Users".toList] := by
    decide +kernel
  have member :
      (⟨.aboutTable (.columns .v12) "dba".toList "Users".toList,
          .error (.database "connection lost".toList)⟩ : Exchange) ∈
        server.exchanges [] loading.calls := by
    rw [calls]
    exact List.mem_cons_of_mem _ List.mem_cons_self
  have fails := Exchange.fails_of_refused
    (.aboutTable (.columns .v12) "dba".toList "Users".toList)
    (.database "connection lost".toList)
  obtain ⟨absent, tables⟩ := absent_of_columns_fail member rfl fails
  have key : session.key "dba.Users".toList = "DBA.USERS".toList := by
    decide +kernel
  have remembered :
      loading.memory.find? "DBA.USERS".toList = some none := by
    rw [Memory.find?, tables, key]
    exact (TableEntries.neverEvicts _ _ _ _).trans (if_pos rfl)
  have given : again = ⟨.ok none, loading.memory, []⟩ := by
    apply outcome_table_of_find?_some
    rw [key]
    exact remembered
  refine ⟨⟨_, member, fails⟩, remembered, ?_, ?_,
    exists_table_of_isSome (by decide +kernel)⟩
  · rw [given]
  · rw [given]

end SqlAnywhere.Session
