import SqlAnywhere.Proofs.LoaderOutcome

/-!
# Outcomes of a session

The outcome of each act of a session: finding out the family of the server,
loading a table, forgetting one, and restarting keys.  Only finding out the
family, remembering a loaded table and forgetting change the memory.
-/

namespace SqlAnywhere.Session

open Program TableName

variable {Cache : Type}

/-! ## The family of the server -/

/-- The family that an answer about the version tells. -/
def familyIn (answer : Answer) : Except CatalogError ServerFamily :=
  match answer >>= scalarOf with
  | .error error => .error (.connection error)
  | .ok value => ServerFamily.ofVersion value.display

/-- The family that a memory holds, or else the one that an answer tells. -/
def familyFrom (memory : Memory Cache) (answer : Answer) :
    Except CatalogError ServerFamily :=
  match memory.family with
  | some family => .ok family
  | none => familyIn answer

/-- The calls that it takes to find out the family. -/
def familyCalls (memory : Memory Cache) : List Call :=
  match memory.family with
  | some _ => []
  | none => [.version]

section Family

variable {server : Server} {memory : Memory Cache} {past : List Call}

theorem familyFrom_of_known {family : ServerFamily}
    (known : memory.family = some family) (answer : Answer) :
    familyFrom memory answer = .ok family := by
  rw [familyFrom, known]

/-- A known family takes no question. -/
theorem familyCalls_of_known {family : ServerFamily}
    (known : memory.family = some family) : familyCalls memory = [] := by
  rw [familyCalls, known]

/--
To find out the family takes no other question than that for the version.
-/
theorem eq_version_of_mem_familyCalls
    {call : Call} (member : call ∈ familyCalls memory) :
    call = .version := by
  rw [familyCalls] at member
  split at member
  · cases member
  · exact List.mem_singleton.1 member

theorem outcome_probeFamily :
    probeFamily.outcome server memory past =
      ⟨familyIn (server past .version), memory, [.version]⟩ := by
  rw [probeFamily, outcome_bind, outcome_mapFailure, outcome_scalar, familyIn]
  cases server past .version >>= scalarOf with
  | error error => rfl
  | ok value =>
      simp only [Outcome.withResult, Except.mapError, Outcome.andThen_ok,
        outcome_bind, outcome_ofExcept]
      cases ServerFamily.ofVersion value.display with
      | error error => rfl
      | ok family => rfl

/--
The family comes from the memory or from the server, and is known afterwards.
-/
theorem outcome_family :
    family.outcome server memory past =
      match familyFrom memory (server past .version) with
      | .error error => ⟨.error error, memory, familyCalls memory⟩
      | .ok family =>
          ⟨.ok family, memory.rememberFamily family, familyCalls memory⟩ := by
  rw [Session.family, outcome_bind, outcome_memory, familyFrom, familyCalls]
  cases known : memory.family with
  | some family =>
      simp only [Outcome.andThen_ok, Outcome.following_nil, outcome_pure,
        known]
      rw [Memory.rememberFamily, ← known]
  | none =>
      simp only [Outcome.andThen_ok, Outcome.following_nil, known]
      rw [outcome_bind, List.append_nil, outcome_probeFamily]
      cases familyIn (server past .version) with
      | error error => rfl
      | ok family => rfl

/--
What goes by the family fails with it, or goes on from a memory that knows
it.
-/
theorem outcome_family_bind {Result : Type}
    (next : ServerFamily → Program (Memory Cache) CatalogError Result) :
    (family >>= next).outcome server memory past =
      match familyFrom memory (server past .version) with
      | .error error => ⟨.error error, memory, familyCalls memory⟩
      | .ok family =>
          ((next family).outcome server (memory.rememberFamily family)
            (past ++ familyCalls memory)).following (familyCalls memory) := by
  rw [outcome_bind, outcome_family]
  cases familyFrom memory (server past .version) with
  | error error => rfl
  | ok family => rfl

/-- Finding out the family leaves every entry. -/
theorem find?_family [TableCache Cache] (key : Text) :
    (family.outcome server memory past).memory.find? key =
      memory.find? key := by
  rw [outcome_family]
  cases familyFrom memory (server past .version) <;> rfl

/-- The family is left as it is, or as it is found out. -/
theorem family_family :
    (family.outcome server memory past).memory.family = memory.family ∨
      ∃ family,
        familyFrom memory (server past .version) = .ok family ∧
          (Session.family.outcome server memory past).memory.family =
            some family := by
  rw [outcome_family]
  cases familyFrom memory (server past .version) with
  | error error => exact Or.inl rfl
  | ok family => exact Or.inr ⟨family, rfl, rfl⟩

end Family

/-! ## Loading a table -/

section Loading

variable (session : Session Cache) (reference : Text)
  {server : Server} {memory : Memory Cache} {past : List Call}

/-- What the loader gives for a reference, the memory aside. -/
def loading (server : Server) (past : List Call) (family : ServerFamily) :
    Outcome Unit CatalogError (Option Table) :=
  (Loader.load family session.defaultOwner reference).outcome server () past

variable [TableCache Cache]

/--
Loading a table fails with the family or with the loader, or remembers what
the loader gives.
-/
theorem outcome_fetchTable :
    (session.fetchTable reference).outcome server memory past =
      match familyFrom memory (server past .version) with
      | .error error => ⟨.error error, memory, familyCalls memory⟩
      | .ok family =>
          let loaded := session.loading reference server
            (past ++ familyCalls memory) family
          let calls := familyCalls memory ++ loaded.calls
          match loaded.result with
          | .error error =>
              ⟨.error error, memory.rememberFamily family, calls⟩
          | .ok table =>
              ⟨.ok table,
                (memory.rememberFamily family).rememberTable
                  (session.key reference) table,
                calls⟩ := by
  rw [fetchTable, outcome_bind, outcome_family]
  cases familyFrom memory (server past .version) with
  | error error => rfl
  | ok family =>
      simp only [Outcome.andThen_ok]
      rw [outcome_bind, Loader.outcome_load_withMemory _ (), ← loading,
        Outcome.withMemory]
      cases (session.loading reference server
          (past ++ familyCalls memory) family).result with
      | error error => rfl
      | ok table =>
          rw [Outcome.andThen_ok]
          split
          · rw [outcome_bind, outcome_log, Outcome.andThen_ok,
              Outcome.following_nil, outcome_bind, outcome_change]
            simp
          · rw [outcome_bind, outcome_change]
            simp

/--
The calls of the loader follow those for the family, unless that is not found
out.
-/
theorem calls_fetchTable :
    ((session.fetchTable reference).outcome server memory past).calls =
      match familyFrom memory (server past .version) with
      | .error _ => familyCalls memory
      | .ok family =>
          familyCalls memory ++
            (session.loading reference server
              (past ++ familyCalls memory) family).calls := by
  rw [outcome_fetchTable]
  cases familyFrom memory (server past .version) with
  | error error => rfl
  | ok family =>
      simp only
      split <;> rfl

/-- What loading a table gives is told by the family and by the loader. -/
theorem result_fetchTable :
    ((session.fetchTable reference).outcome server memory past).result =
      familyFrom memory (server past .version) >>= fun family =>
        (session.loading reference server
          (past ++ familyCalls memory) family).result := by
  rw [outcome_fetchTable]
  cases familyFrom memory (server past .version) with
  | error error => rfl
  | ok family =>
      simp only [bind, Except.bind]
      split
      · next failed => exact failed.symm
      · next loaded => exact loaded.symm

/-- Loading a table always asks the server. -/
theorem calls_fetchTable_ne_nil :
    ((session.fetchTable reference).outcome
      server memory past).calls ≠ [] := by
  rw [outcome_fetchTable]
  cases found : familyFrom memory (server past .version) with
  | error error =>
      cases known : memory.family with
      | some family => simp [familyFrom, known] at found
      | none => simp [familyCalls, known]
  | ok family =>
      have asked :
          (session.loading reference server
            (past ++ familyCalls memory) family).calls ≠ [] :=
        Loader.calls_load_ne_nil family session.defaultOwner reference
      simp only
      split <;> simp [asked]

/--
Loading a table changes the tables only where it succeeds, and there at one
key.
-/
theorem tables_fetchTable :
    let outcome := (session.fetchTable reference).outcome server memory past
    outcome.memory.tables =
      match outcome.result with
      | .error _ => memory.tables
      | .ok table =>
          TableCache.insert memory.tables (session.key reference) table := by
  simp only [outcome_fetchTable]
  split
  · rfl
  · split <;> rfl

/-- What cannot be loaded leaves every entry. -/
theorem find?_fetchTable_of_error
    {error : CatalogError}
    (failed :
      ((session.fetchTable reference).outcome server memory past).result =
        .error error)
    (key : Text) :
    ((session.fetchTable reference).outcome
        server memory past).memory.find? key = memory.find? key := by
  rw [Memory.find?, tables_fetchTable, failed, Memory.find?]

/--
A loaded table is remembered under its key and all else as before, but for
what the cache gives up.
-/
theorem find?_fetchTable_of_ok
    {table : Option Table}
    (loaded :
      ((session.fetchTable reference).outcome server memory past).result =
        .ok table)
    (key : Text) :
    let left :=
      ((session.fetchTable reference).outcome server memory past).memory
    left.find? key =
        (if key = session.key reference then some table
          else memory.find? key) ∨
      left.find? key = none := by
  intro left
  rw [Memory.find?, tables_fetchTable, loaded]
  exact TableCache.find?_insert memory.tables _ key table

/-- A remembered table is given without a call. -/
theorem outcome_table_of_find?_some
    {table : Option Table}
    (known : memory.find? (session.key reference) = some table) :
    (session.table reference).outcome server memory past =
      ⟨.ok table, memory, []⟩ := by
  rw [Session.table, outcome_bind, outcome_memory]
  simp only [Outcome.andThen_ok, known]
  rfl

/-- A table that is not remembered is loaded. -/
theorem outcome_table_of_find?_none
    (unknown : memory.find? (session.key reference) = none) :
    (session.table reference).outcome server memory past =
      (session.fetchTable reference).outcome server memory past := by
  rw [Session.table, outcome_bind, outcome_memory]
  simp only [Outcome.andThen_ok, unknown, Outcome.following_nil,
    List.append_nil]

/--
A table that a reference gives is what is remembered under its key, if
anything is.
-/
theorem find?_table_of_ok
    {table : Option Table}
    (given :
      ((session.table reference).outcome server memory past).result =
        .ok table) :
    let left := ((session.table reference).outcome server memory past).memory
    left.find? (session.key reference) = some table ∨
      left.find? (session.key reference) = none := by
  cases known : memory.find? (session.key reference) with
  | some remembered =>
      rw [outcome_table_of_find?_some session reference known] at given ⊢
      rw [← Except.ok.inj given]
      exact .inl known
  | none =>
      rw [outcome_table_of_find?_none session reference known] at given ⊢
      simpa using find?_fetchTable_of_ok session reference given
        (session.key reference)

/--
What is remembered after loading a table was remembered before, or is the
table loaded.
-/
theorem find?_table
    {key : Text} {table : Option Table}
    (remembered :
      ((session.table reference).outcome
          server memory past).memory.find? key = some table) :
    memory.find? key = some table ∨
      session.key reference = key ∧
        memory.find? key = none ∧
        ((session.fetchTable reference).outcome
            server memory past).result = .ok table := by
  cases known : memory.find? (session.key reference) with
  | some _ =>
      rw [outcome_table_of_find?_some session reference known] at remembered
      exact Or.inl remembered
  | none =>
      rw [outcome_table_of_find?_none session reference known] at remembered
      cases loaded :
          ((session.fetchTable reference).outcome
            server memory past).result with
      | error error =>
          rw [find?_fetchTable_of_error session reference loaded]
            at remembered
          exact Or.inl remembered
      | ok table' =>
          rcases find?_fetchTable_of_ok session reference loaded key with
            left | lost
          · rw [left] at remembered
            split at remembered
            · next here =>
                subst here
                rw [Option.some.inj remembered]
                exact Or.inr ⟨rfl, known, rfl⟩
            · exact Or.inl remembered
          · rw [lost] at remembered
            cases remembered

/--
Loading a table leaves the entries of other keys, but for what the cache
gives up.
-/
theorem find?_table_of_ne
    {key : Text} (other : session.key reference ≠ key) :
    let left := ((session.table reference).outcome server memory past).memory
    left.find? key = memory.find? key ∨ left.find? key = none := by
  cases known : memory.find? (session.key reference) with
  | some _ =>
      rw [outcome_table_of_find?_some session reference known]
      exact Or.inl rfl
  | none =>
      rw [outcome_table_of_find?_none session reference known]
      cases loaded :
          ((session.fetchTable reference).outcome
            server memory past).result with
      | error error =>
          exact Or.inl
            (find?_fetchTable_of_error session reference loaded key)
      | ok table =>
          simpa [other.symm] using
            find?_fetchTable_of_ok session reference loaded key

/--
Where the cache gives up nothing, a table that a reference gives is
remembered under its key, and all else as before.
-/
theorem find?_table_of_neverEvicts
    (never : TableCache.NeverEvicts Cache) {table : Option Table}
    (given :
      ((session.table reference).outcome server memory past).result =
        .ok table)
    (key : Text) :
    ((session.table reference).outcome server memory past).memory.find? key =
      if key = session.key reference then some table
      else memory.find? key := by
  cases known : memory.find? (session.key reference) with
  | some remembered =>
      rw [outcome_table_of_find?_some session reference known] at given ⊢
      cases given
      split
      · next here => rw [here, known]
      · rfl
  | none =>
      rw [outcome_table_of_find?_none session reference known] at given ⊢
      rw [Memory.find?, tables_fetchTable, given]
      exact never memory.tables _ key table

/-- Loading a table leaves the family as it is, or as it is found out. -/
theorem family_table :
    ((session.table reference).outcome server memory past).memory.family =
        memory.family ∨
      ∃ family,
        familyFrom memory (server past .version) = .ok family ∧
          ((session.table reference).outcome
            server memory past).memory.family = some family := by
  cases known : memory.find? (session.key reference) with
  | some _ =>
      rw [outcome_table_of_find?_some session reference known]
      exact Or.inl rfl
  | none =>
      rw [outcome_table_of_find?_none session reference known,
        outcome_fetchTable]
      cases familyFrom memory (server past .version) with
      | error error => exact Or.inl rfl
      | ok family =>
          refine Or.inr ⟨family, rfl, ?_⟩
          simp only
          split <;> rfl

/--
What a reference is given depends on the family and on the entry of its key
alone.
-/
theorem table_congr {other : Memory Cache}
    (entry :
      other.find? (session.key reference) =
        memory.find? (session.key reference))
    (family : other.family = memory.family) :
    ((session.table reference).outcome server other past).result =
        ((session.table reference).outcome server memory past).result ∧
      ((session.table reference).outcome server other past).calls =
        ((session.table reference).outcome server memory past).calls := by
  cases known : memory.find? (session.key reference) with
  | some table =>
      rw [known] at entry
      rw [outcome_table_of_find?_some session reference known,
        outcome_table_of_find?_some session reference entry]
      exact ⟨rfl, rfl⟩
  | none =>
      rw [known] at entry
      rw [outcome_table_of_find?_none session reference known,
        outcome_table_of_find?_none session reference entry,
        result_fetchTable, result_fetchTable, calls_fetchTable,
        calls_fetchTable, familyFrom, familyCalls, family]
      exact ⟨rfl, rfl⟩

end Loading

/-! ## Forgetting -/

/--
The keys that forgetting a reference drops: that of its table, and that of
its bare name where the owner is the default one.
-/
def keysOf (session : Session Cache) (reference : Text) : List Text :=
  let name := resolve reference session.defaultOwner
  name.key ::
    if Text.sameLetters name.owner session.defaultOwner then
      [bareKey name.name]
    else
      []

section Forgetting

variable [TableCache Cache]

/-- A memory without what a reference names. -/
def forgotten (session : Session Cache) (reference : Text)
    (memory : Memory Cache) : Memory Cache :=
  (session.keysOf reference).foldl (fun memory key => memory.forgetTable key)
    memory

/-- Forgetting drops the entries of its keys and leaves all others. -/
theorem find?_forgotten
    (session : Session Cache) (reference key : Text)
    (memory : Memory Cache) :
    (session.forgotten reference memory).find? key =
      if key ∈ session.keysOf reference then none
      else memory.find? key := by
  rw [forgotten]
  induction session.keysOf reference generalizing memory with
  | nil => rfl
  | cons first keys dropped =>
      rw [List.foldl_cons, dropped, Memory.find?_forgetTable]
      by_cases isFirst : key = first <;> simp [isFirst]

/-- Forgetting a table keeps the family. -/
theorem family_forgotten
    (session : Session Cache) (reference : Text) (memory : Memory Cache) :
    (session.forgotten reference memory).family = memory.family := by
  rw [forgotten]
  induction session.keysOf reference generalizing memory with
  | nil => rfl
  | cons first keys kept => rw [List.foldl_cons, kept, Memory.forgetTable]

theorem outcome_forgetTable {Failure : Type}
    (session : Session Cache) (reference : Text)
    {server : Server} {memory : Memory Cache} {past : List Call} :
    (session.forgetTable reference :
        Program (Memory Cache) Failure Unit).outcome server memory past =
      ⟨.ok (), session.forgotten reference memory, []⟩ := by
  rw [forgetTable, forgotten, keysOf]
  simp only [outcome_bind, outcome_change, Outcome.andThen_ok,
    Outcome.following_nil]
  split <;> rfl

theorem outcome_forgetAll {Failure : Type} (session : Session Cache)
    {server : Server} {memory : Memory Cache} {past : List Call} :
    (session.forgetAll : Program (Memory Cache) Failure Unit).outcome
        server memory past =
      ⟨.ok (), memory.forgetAll session.pinned, []⟩ := by
  rw [forgetAll, outcome_bind, outcome_change, Outcome.andThen_ok,
    outcome_log]
  rfl

/-- A table is refreshed by loading it from a memory without it. -/
theorem outcome_refreshTable (session : Session Cache) (reference : Text)
    {server : Server} {memory : Memory Cache} {past : List Call} :
    (session.refreshTable reference).outcome server memory past =
      (session.table reference).outcome server
        (session.forgotten reference memory) past := by
  rw [refreshTable, outcome_bind, outcome_forgetTable, Outcome.andThen_ok,
    Outcome.following_nil, List.append_nil]

end Forgetting

/-! ## Listing tables and restarting keys -/

section Acts

variable (session : Session Cache)
  {server : Server} {memory : Memory Cache} {past : List Call}

/--
Listing tables changes no more of the memory than finding out the family.
-/
theorem memory_tableNames (owner : Text) :
    ((session.tableNames owner).outcome server memory past).memory =
      (family.outcome server memory past).memory := by
  rw [Session.tableNames, outcome_bind]
  obtain ⟨result, left, calls⟩ := family.outcome server memory past
  cases result with
  | error error => rfl
  | ok family =>
      rw [Outcome.andThen_ok, Loader.outcome_tableNames]
      rfl

/--
Listing tables fails with the family, or gives what the answer for the owner
lists.
-/
theorem outcome_tableNames (owner : Text) :
    (session.tableNames owner).outcome server memory past =
      match familyFrom memory (server past .version) with
      | .error error => ⟨.error error, memory, familyCalls memory⟩
      | .ok family =>
          let call := Call.tableNames family
            (if (Text.trim owner).isEmpty then session.defaultOwner
              else Text.trim owner)
          ⟨Loader.tableNamesIn (server (past ++ familyCalls memory) call),
            memory.rememberFamily family, familyCalls memory ++ [call]⟩ := by
  rw [Session.tableNames, outcome_family_bind]
  simp only [Loader.outcome_tableNames]
  rfl

/--
What asking for the next key of a table gives, the memory aside: it takes a
question where one column makes up the primary key.
-/
def nextKeyAsked (server : Server) (past : List Call) (table : Table) :
    Outcome Unit CatalogError Int64 :=
  match table.primaryKey with
  | [column] =>
      let call := Call.greatestKey table.name.owner table.name.name column
      ⟨((server past call >>= scalarOf).mapError
          (.ofTable table.name.fullName)).map
            fun greatest => greatest.toInt64?.getD 0 + 1,
        (), [call]⟩
  | _ => ⟨.ok 1, (), []⟩

theorem outcome_nextKey (table : Table) :
    (nextKey table).outcome server memory past =
      (nextKeyAsked server past table).withMemory memory := by
  rw [nextKey, nextKeyAsked]
  rcases table.primaryKey with _ | ⟨column, _ | ⟨_, _⟩⟩
  · rfl
  · simp only [outcome_bind, outcome_mapFailure, outcome_scalar]
    cases server past (.greatestKey table.name.owner table.name.name
        column) >>= scalarOf with
    | error error => rfl
    | ok greatest => rfl
  · rfl

/-- What restarting the keys of a loaded table gives, the memory aside. -/
def restarted (server : Server) (past : List Call) (next : Option Int64) :
    Option Table → Outcome Unit CatalogError (Option Text)
  | none => ⟨.ok none, (), []⟩
  | some table =>
      match table.generator with
      | none => ⟨.ok none, (), []⟩
      | some generator =>
          let key : Outcome Unit CatalogError Int64 :=
            match next with
            | some next => ⟨.ok next, (), []⟩
            | none => nextKeyAsked server past table
          key.map fun next =>
            some (Maintenance.restartKeys table.name.owner table.name.name
              generator next)

/-- Restarting keys goes on from loading the table, and leaves its memory. -/
theorem outcome_restartKeys [TableCache Cache] (reference : Text)
    (next : Option Int64) :
    (session.restartKeys reference next).outcome server memory past =
      ((session.table reference).outcome server memory past).andThen
        fun table left calls =>
          (restarted server (past ++ calls) next table).withMemory left := by
  rw [restartKeys, outcome_bind]
  obtain ⟨result, left, calls⟩ :=
    (session.table reference).outcome server memory past
  cases result with
  | error error => rfl
  | ok table =>
      cases table with
      | none => rfl
      | some table =>
          simp only [Outcome.andThen_ok, restarted]
          cases table.generator with
          | none => rfl
          | some generator =>
              cases next with
              | none =>
                  simp only [outcome_bind, outcome_nextKey]
                  obtain ⟨key, _, asked⟩ :=
                    nextKeyAsked server (past ++ calls) table
                  cases key with
                  | error error => rfl
                  | ok next => simp [Outcome.withMemory, Outcome.map,
                      Outcome.withResult, Except.map]
              | some next => rfl

end Acts

end SqlAnywhere.Session
