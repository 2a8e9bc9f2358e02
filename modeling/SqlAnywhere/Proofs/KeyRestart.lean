import SqlAnywhere.Proofs.SessionTables

/-!
# Restarting keys after the greatest one

Without a value to restart with, a session asks for the greatest key of a table
whose key is a single column, and restarts the generator with the value after
it.  The two kinds of statements take that value in different ways: a sequence
restarts with it, the counter of a column is set to the value before it.

Of a key with several columns the session asks for no value and restarts with
one, whatever keys there are.
-/

namespace SqlAnywhere

variable {Cache : Type} [TableCache Cache]

/-! ## What statements restart -/

section Neighbours

variable {number : Int64}

/-- Every integer but the greatest has one after it. -/
theorem toInt_add_one (below : number < Int64.maxValue) :
    (number + 1).toInt = number.toInt + 1 := by
  have least := Int64.le_toInt number
  have bounded := Int64.lt_iff_toInt_lt.1 below
  rw [Int64.toInt_maxValue] at bounded
  rw [Int64.toInt_add, Int64.toInt_one, Int.bmod_eq_of_le] <;> omega

/-- Every integer but the least has one before it. -/
theorem toInt_sub_one_add_one (above : number ≠ Int64.minValue) :
    (number - 1).toInt + 1 = number.toInt := by
  have least := Int64.le_toInt number
  have greatest := Int64.toInt_lt number
  have other : number.toInt ≠ Int64.minValue.toInt :=
    fun same => above (Int64.toInt_inj.1 same)
  rw [Int64.toInt_minValue] at other
  rw [Int64.toInt_sub, Int64.toInt_one, Int.bmod_eq_of_le] <;> omega

end Neighbours

namespace Maintenance

/--
A statement after which a key generator of a table gives a value next.  The
counter of a column is set to the last value that was used.
-/
inductive Restarts (owner table : Text) :
    KeyGenerator → Text → Int → Prop where
  | identity (last : Int64) :
      Restarts owner table .identity
        ("CALL sa_reset_identity(".toList ++ nameLiteral table ++
          ", ".toList ++ nameLiteral owner ++ ", ".toList ++
          Numeral.ofInt64 last ++ ")".toList)
        (last.toInt + 1)
  | sequence (name : Text) (first : Int64) :
      Restarts owner table (.sequence name)
        ("ALTER SEQUENCE ".toList ++ Identifier.quoteTable name ++
          " RESTART WITH ".toList ++ Numeral.ofInt64 first)
        first.toInt

theorem restartKeys_identity (owner table : Text) (next : Int64) :
    restartKeys owner table .identity next =
      "CALL sa_reset_identity(".toList ++ nameLiteral table ++
        ", ".toList ++ nameLiteral owner ++ ", ".toList ++
        Numeral.ofInt64 (predecessor next) ++ ")".toList := rfl

theorem restartKeys_sequence (owner table name : Text) (next : Int64) :
    restartKeys owner table (.sequence name) next =
      "ALTER SEQUENCE ".toList ++ Identifier.quoteTable name ++
        " RESTART WITH ".toList ++ Numeral.ofInt64 next := rfl

/-- A generator restarts with any value but the least. -/
theorem restarts_restartKeys
    (owner table : Text) (generator : KeyGenerator) {next : Int64}
    (above : next ≠ Int64.minValue) :
    Restarts owner table generator
      (restartKeys owner table generator next) next.toInt := by
  cases generator with
  | identity =>
      rw [restartKeys_identity, predecessor, if_neg above,
        ← toInt_sub_one_add_one above]
      exact .identity (next - 1)
  | sequence name =>
      rw [restartKeys_sequence]
      exact .sequence name next

end Maintenance

namespace Session

/-! ## The next key -/

section NextKey

variable {server : Server} {past : List Call} {table : Table}

/-- The question for the greatest key of a column of a table. -/
def greatestKeyCall (table : Table) (column : Text) : Call :=
  .greatestKey table.name.owner table.name.name column

/-- The greatest key that a value tells; null tells zero. -/
def TellsGreatest (value : Value) (greatest : Int64) : Prop :=
  value.toInt64? = some greatest ∨ value = .null ∧ greatest = 0

/-- Where one column makes up the key, its greatest value is asked for. -/
theorem calls_nextKeyAsked_of_single {column : Text}
    (single : table.primaryKey = [column]) :
    (nextKeyAsked server past table).calls =
      [greatestKeyCall table column] := by
  rw [nextKeyAsked, single]
  rfl

/-- Where one column makes up the key, the next key follows the greatest. -/
theorem result_nextKeyAsked_of_single {column : Text}
    (single : table.primaryKey = [column])
    {value : Value} {greatest : Int64}
    (answered :
      server past (greatestKeyCall table column) >>= Program.scalarOf =
        .ok value)
    (tells : TellsGreatest value greatest) :
    (nextKeyAsked server past table).result = .ok (greatest + 1) := by
  have read : value.toInt64?.getD 0 = greatest := by
    rcases tells with number | ⟨rfl, rfl⟩
    · rw [number, Option.getD_some]
    · rfl
  rw [nextKeyAsked, single]
  simp only
  rw [← greatestKeyCall, answered, ← read]
  rfl

/-- Where several columns make up the key, the next key is taken to be one. -/
theorem nextKeyAsked_of_several
    (several : ∀ column, table.primaryKey ≠ [column]) :
    nextKeyAsked server past table = ⟨.ok 1, (), []⟩ := by
  rw [nextKeyAsked]
  split
  · next column single => exact absurd single (several column)
  · rfl

end NextKey

/-! ## Restarting -/

/--
The key that a table restarts with, the memory aside: the one given, or else
the one that is asked for.
-/
def nextKeyTaken (server : Server) (past : List Call) (table : Table) :
    Option Int64 → Outcome Unit CatalogError Int64
  | some next => ⟨.ok next, (), []⟩
  | none => nextKeyAsked server past table

/-- The keys of a given table restart with the one that is taken to be next. -/
theorem restartKeys_of_given
    {server : Server} {session : Session Cache} {memory : Memory Cache}
    {past : List Call} {reference : Text} {table : Table}
    (given :
      ((session.table reference).outcome server memory past).result =
        .ok (some table))
    {generator : KeyGenerator}
    (generated : table.generator = some generator) (next : Option Int64) :
    let loading := (session.table reference).outcome server memory past
    let restarting :=
      (session.restartKeys reference next).outcome server memory past
    let taken := nextKeyTaken server (past ++ loading.calls) table next
    restarting.calls = loading.calls ++ taken.calls ∧
      restarting.result =
        taken.result.map fun next =>
          some (Maintenance.restartKeys table.name.owner table.name.name
            generator next) := by
  intro loading restarting taken
  have goesOn : restarting = loading.andThen fun table left calls =>
      (restarted server (past ++ calls) next table).withMemory left :=
    outcome_restartKeys session reference next
  replace given : loading.result = .ok (some table) := given
  -- From here on only the parts of the loading matter, not how it came about.
  clear_value loading restarting
  obtain ⟨result, left, calls⟩ := loading
  obtain rfl : result = .ok (some table) := given
  rw [goesOn, Outcome.andThen_ok]
  simp only [restarted, generated]
  cases next <;> exact ⟨rfl, rfl⟩

/--
Restarting the keys of a table that has generated ones, without a value, at
any stage of a session.  Where one column makes up the key, the session asks
for its greatest value, and the generator gives the one after it next.  Where
several do, it asks for nothing more, and the generator gives one next,
whatever the greatest key is.
-/
theorem next_key_after_restart
    (server : Server) (session : Session Cache) (operations : List Operation)
    (reference : Text) {table : Table} {column : Column}
    (given :
      ((session.table reference).outcome server
        (Stage.after server session operations).memory
        (Stage.after server session operations).past).result =
          .ok (some table))
    (listed : column ∈ table.columns) (gives : column.GivesKeys) :
    let stage := Stage.after server session operations
    let loading :=
      (session.table reference).outcome server stage.memory stage.past
    let restarting :=
      (session.restartKeys reference none).outcome
        server stage.memory stage.past
    ∃ generator,
      table.generator = some generator ∧
      (∀ key, table.primaryKey = [key] →
        let asked := greatestKeyCall table key
        Text.sameLetters key column.name ∧
        restarting.calls = loading.calls ++ [asked] ∧
        ∀ value greatest,
          server (stage.past ++ loading.calls) asked >>= Program.scalarOf =
            .ok value →
          TellsGreatest value greatest → greatest < Int64.maxValue →
          ∃ statement,
            restarting.result = .ok (some statement) ∧
              Maintenance.Restarts table.name.owner table.name.name generator
                statement (greatest.toInt + 1)) ∧
      ((∀ key, table.primaryKey ≠ [key]) →
        restarting.calls = loading.calls ∧
        ∃ statement,
          restarting.result = .ok (some statement) ∧
            Maintenance.Restarts table.name.owner table.name.name generator
              statement 1) := by
  intro stage loading restarting
  have holds : session.HoldsGiven stage.memory :=
    holdsGiven_after server session operations
  obtain ⟨-, rows, described⟩ := holds.isGivenBy_of_table given
  obtain ⟨generator, generated⟩ := described.exists_generator listed gives
  obtain ⟨calls, result⟩ := restartKeys_of_given given generated none
  rw [nextKeyTaken] at calls result
  refine ⟨generator, generated, ?_, ?_⟩
  · intro key single asked
    refine ⟨?_, ?_, ?_⟩
    · obtain ⟨name, member, same⟩ :=
        (described.isSound listed).inPrimaryKey.1 gives.1
      rw [single, List.mem_singleton] at member
      rwa [member] at same
    · rw [calls_nextKeyAsked_of_single single] at calls
      exact calls
    · intro value greatest answered tells below
      rw [result_nextKeyAsked_of_single single answered tells] at result
      refine ⟨_, result, ?_⟩
      -- The counter of a column is set back by one, which must not wrap
      -- around.
      have above : greatest + 1 ≠ Int64.minValue := by
        intro least
        have positive := toInt_add_one below
        rw [least, Int64.toInt_minValue] at positive
        have bound := Int64.le_toInt greatest
        omega
      rw [← toInt_add_one below]
      exact Maintenance.restarts_restartKeys _ _ generator above
  · intro several
    rw [nextKeyAsked_of_several several] at calls result
    refine ⟨calls.trans (List.append_nil _), _, result, ?_⟩
    exact Maintenance.restarts_restartKeys _ _ generator (by decide)

/--
The counter of a column that makes up the key is set to the greatest key.
-/
theorem users_restarted_after_greatest :
    let users : StoredTable :=
      { owner := "dbo".toList
        name := "Users".toList
        primaryKey := ["id".toList]
        columns := [
          { name := "id".toList, typeName := "integer".toList
            default := some "autoincrement".toList }] }
    let asked := Call.greatestKey "dbo".toList "Users".toList "id".toList
    let server := (StoredCatalog.server [users] .v12).answering asked
      [[("max".toList, .integer 41)]]
    let session : Session TableEntries := ⟨"dbo".toList, some .v12, 1024⟩
    let stage := Stage.after server session [.load "Users".toList]
    let restarting :=
      (session.restartKeys "Users".toList none).outcome
        server stage.memory stage.past
    restarting.calls = [asked] ∧
      ∃ statement,
        restarting.result = .ok (some statement) ∧
          Maintenance.Restarts "dbo".toList "Users".toList .identity
            statement 42 := by
  intro users asked server session stage restarting
  obtain ⟨table, given, name, key, generator, column, listed, gives⟩ :
      ∃ table,
        ((session.table "Users".toList).outcome
            server stage.memory stage.past).result = .ok (some table) ∧
          table.name = ⟨"dbo".toList, "Users".toList, "Users".toList⟩ ∧
          table.primaryKey = ["id".toList] ∧
          table.generator = some .identity ∧
          ∃ column ∈ table.columns, column.GivesKeys :=
    exists_table_of_any (by decide +kernel)
  obtain ⟨generator', generated, single, -⟩ :=
    next_key_after_restart server session [.load "Users".toList]
      "Users".toList given listed gives
  obtain rfl : KeyGenerator.identity = generator' :=
    Option.some.inj (generator.symm.trans generated)
  obtain ⟨-, calls, restarts⟩ := single "id".toList key
  rw [greatestKeyCall, name] at calls restarts
  have remembered :
      ((session.table "Users".toList).outcome
        server stage.memory stage.past).calls = [] := by decide +kernel
  rw [remembered] at calls restarts
  exact ⟨calls, restarts (.integer 41) 41 rfl (.inl rfl) (by decide)⟩

/--
The counter of a column that is one of two in the key is set to zero, and its
greatest value, which the server would tell, is not asked for.
-/
theorem lines_restarted_at_existing_keys :
    let lines : StoredTable :=
      { owner := "dba".toList
        name := "OrderLines".toList
        primaryKey := ["order_id".toList, "line_no".toList]
        columns := [
          { name := "order_id".toList, typeName := "integer".toList },
          { name := "line_no".toList, typeName := "integer".toList
            default := some "autoincrement".toList }] }
    let asked :=
      Call.greatestKey "dba".toList "OrderLines".toList "line_no".toList
    let server := (StoredCatalog.server [lines] .v12).answering asked
      [[("max".toList, .integer 41)]]
    let session : Session TableEntries := ⟨"dba".toList, some .v12, 1024⟩
    let loading :=
      (session.table "dba.OrderLines".toList).outcome server session.start []
    let restarting :=
      (session.restartKeys "dba.OrderLines".toList none).outcome
        server session.start []
    (∃ table,
      loading.result = .ok (some table) ∧
        table.generator = some .identity ∧
        ∃ column ∈ table.columns,
          column.name = "line_no".toList ∧ column.GivesKeys) ∧
      asked ∉ restarting.calls ∧
      restarting.result =
        .ok (some
          "CALL sa_reset_identity('OrderLines', 'dba', 0)".toList) := by
  intro lines asked server session loading restarting
  exact ⟨exists_table_of_any (by decide +kernel), by decide +kernel, rfl⟩

end Session

end SqlAnywhere
