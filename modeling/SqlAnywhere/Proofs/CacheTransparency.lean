import SqlAnywhere.Proofs.SessionHistory
import SqlAnywhere.Proofs.StableServer

/-!
# The memory does not show

On a server whose answers do not change, a session replies about a table as
one does that has just begun, whatever was asked of it before.  What carries
this is that a memory is faithful: each entry is what a new session would give
for any reference with its key.  Every operation leaves a faithful memory,
whatever the cache gives up.
-/

namespace SqlAnywhere

variable {Cache : Type} [TableCache Cache]

namespace Session

variable {server : Server} {session : Session Cache}

/-- What a session that has just begun replies about a table. -/
def fresh (server : Server) (session : Session Cache) (reference : Text) :
    Except CatalogError (Option Table) :=
  ((session.table reference).outcome server session.start []).result

/-- The table is loaded first, as a new session remembers none. -/
theorem fresh_eq (reference : Text) :
    session.fresh server reference =
      familyFrom session.start (server [] .version) >>= fun family =>
        (session.loading reference server
          (familyCalls session.start) family).result := by
  rw [fresh, outcome_table_of_find?_none session reference
    (session.find?_start _), result_fetchTable]
  rfl

/--
With the family that a new session finds out, loading a table gives what it
gives there.
-/
theorem result_fetchTable_eq_fresh
    (stable : server.IsStable) {memory : Memory Cache}
    (known :
      familyFrom memory (server [] .version) =
        familyFrom session.start (server [] .version))
    (reference : Text) (past : List Call) :
    ((session.fetchTable reference).outcome server memory past).result =
      session.fresh server reference := by
  have version : server past .version = server [] .version :=
    stable past [] .version .version Call.version.alike_refl
  have loading :
      ∀ family,
        session.loading reference server (past ++ familyCalls memory) family =
          session.loading reference server (familyCalls session.start)
            family := by
    intro family
    exact Program.outcome_of_isStable stable _ () _ _
  rw [result_fetchTable, fresh_eq, version, known]
  simp only [loading]

/--
A table that a new session gives for a reference it gives for every reference
with its key.
-/
theorem sameReply_fresh
    (stable : server.IsStable) {first second : Text}
    (keys : session.key first = session.key second)
    {table : Option Table}
    (given : session.fresh server first = .ok table) :
    SameReply (.ok table) (session.fresh server second) := by
  rw [fresh_eq] at given ⊢
  cases found : familyFrom session.start (server [] .version) with
  | error error =>
      rw [found] at given
      cases given
  | ok family =>
      rw [found] at given
      exact sameReply_loading stable keys given

end Session

/-! ## Faithful memories -/

/--
A memory in which the family is the one that a new session finds out, and
each entry is what a new session gives for all references with its key.
-/
structure Memory.Faithful (server : Server) (session : Session Cache)
    (memory : Memory Cache) : Prop where
  family :
    Session.familyFrom memory (server [] .version) =
      Session.familyFrom session.start (server [] .version)
  tables :
    ∀ reference table,
      memory.find? (session.key reference) = some table →
        SameReply (.ok table) (session.fresh server reference)

namespace Memory.Faithful

variable {server : Server} {session : Session Cache} {memory : Memory Cache}

theorem start : Memory.Faithful server session session.start := by
  constructor
  · rfl
  · intro reference table remembered
    simp at remembered

/-- The family decides alike in memories that agree on it. -/
theorem family_of_eq
    {other : Memory Cache} (faithful : memory.Faithful server session)
    (same : other.family = memory.family) :
    Session.familyFrom other (server [] .version) =
      Session.familyFrom session.start (server [] .version) := by
  rw [← faithful.family, Session.familyFrom, Session.familyFrom, same]

/-- From a faithful memory a session replies as a new one. -/
theorem sameReply_table
    (stable : server.IsStable) (faithful : memory.Faithful server session)
    (reference : Text) (past : List Call) :
    SameReply
      ((session.table reference).outcome server memory past).result
      (session.fresh server reference) := by
  cases known : memory.find? (session.key reference) with
  | some table =>
      rw [Session.outcome_table_of_find?_some session reference known]
      exact faithful.tables reference table known
  | none =>
      rw [Session.outcome_table_of_find?_none session reference known,
        Session.result_fetchTable_eq_fresh stable faithful.family]
      exact sameReply_refl _

/-- What an operation leaves of a faithful memory is faithful. -/
theorem drop
    (faithful : memory.Faithful server session) (operation : Operation) :
    (operation.drop session memory).Faithful server session := by
  constructor
  · rcases operation.family_drop memory with kept | pinned
    · exact faithful.family_of_eq kept
    · exact start.family_of_eq pinned
  · intro reference table remembered
    apply faithful.tables
    rwa [Operation.find?_drop_of_not_forgets] at remembered
    intro forgets
    rw [Operation.find?_drop_of_forgets memory forgets] at remembered
    cases remembered

/-- An operation that starts from a faithful memory ends in one. -/
theorem outcome
    (stable : server.IsStable) {stage : Stage Cache}
    (faithful : stage.memory.Faithful server session)
    (operation : Operation) :
    (operation.outcome server session stage).memory.Faithful
      server session := by
  have dropped := faithful.drop operation
  constructor
  · rcases @Operation.family_outcome _ _ server session operation stage with
      kept | ⟨family, found, known⟩
    · exact dropped.family_of_eq kept
    · have version : server stage.past .version = server [] .version :=
        stable stage.past [] .version .version Call.version.alike_refl
      rw [version, dropped.family] at found
      rw [found, Session.familyFrom, known]
  · intro reference table remembered
    rcases operation.find?_outcome remembered with
      ⟨before, -⟩ | ⟨other, -, keys, -, loaded⟩
    · exact faithful.tables reference table before
    · rw [Session.result_fetchTable_eq_fresh stable dropped.family] at loaded
      exact Session.sameReply_fresh stable keys loaded

/-- At every stage of a session its memory is faithful. -/
theorem after
    (stable : server.IsStable) (operations : List Operation) :
    (Stage.after server session operations).memory.Faithful
      server session := by
  induction operations using List.reverseRecOn with
  | nil => exact start
  | append_singleton operations operation ih =>
      rw [Stage.after_concat]
      exact ih.outcome stable operation

end Memory.Faithful

/-! ## Transparency -/

/--
After any operations, a reference is answered as by a session that has just
begun: by the same failure, by the same absence, or by a table of the same
contents.  It makes no difference to the reply what the cache gives up.
-/
theorem Session.table_after_operations
    {server : Server} (stable : server.IsStable) (session : Session Cache)
    (operations : List Operation) (reference : Text) (past : List Call) :
    let stage := Stage.after server session operations
    SameReply
      ((session.table reference).outcome
        server stage.memory stage.past).result
      ((session.table reference).outcome
        server session.start past).result := by
  intro stage
  have faithful : stage.memory.Faithful server session :=
    Memory.Faithful.after stable operations
  rw [Program.outcome_of_isStable stable _ session.start past []]
  exact faithful.sameReply_table stable reference stage.past

/--
A server of version 17 on which one user has a table of the name `USERS`,
with one column.
-/
def serverOfUsers : Server := fun _ call =>
  let aboutUsers :=
    call.parameters.any fun parameter =>
      Text.upper parameter.2 = "USERS".toList
  match call.query with
  | .version => .ok [[("version".toList, .text "17.0.10.5963".toList)]]
  | .ownerCount =>
      .ok [[("cnt".toList, .integer (if aboutUsers then 1 else 0))]]
  | .columns _ =>
      if aboutUsers then
        .ok [[("column_name".toList, .text "id".toList),
          ("base_type".toList, .text "integer".toList),
          ("width".toList, .null), ("scale".toList, .null),
          ("nulls".toList, .text "N".toList),
          ("unique".toList, .text "N".toList), ("default".toList, .null),
          ("sequence_name".toList, .null), ("remarks".toList, .null)]]
      else
        .ok []
  | _ => .ok []

theorem serverOfUsers_isStable : serverOfUsers.IsStable := by
  rintro past past' ⟨query, parameters⟩ ⟨query', parameters'⟩
    ⟨queries, values⟩
  simp only at queries values
  have aboutUsers := congrArg (List.any · (·.2 = "USERS".toList)) values
  simp only [List.any_map, Function.comp_def] at aboutUsers
  rw [serverOfUsers, serverOfUsers]
  simp only [queries, aboutUsers]

/--
A table loaded under one spelling is given for another after the memory was
used and cleared in between, as a new session would give it.
-/
theorem users_after_operations :
    let session : Session TableEntries := ⟨"dbo".toList, none, 1024⟩
    let operations : List Operation :=
      [.load "Users".toList, .forgetAll, .refresh "[dbo].[USERS]".toList,
        .tableNames [], .restartKeys "Dbo.users".toList none,
        .forget "acme.Users".toList]
    let stage := Stage.after serverOfUsers session operations
    serverOfUsers.IsStable ∧
      ((stage.memory.find?
        (session.key "dbo.Users".toList)).bind id).isSome ∧
      SameReply
        ((session.table "dbo.Users".toList).outcome
          serverOfUsers stage.memory stage.past).result
        ((session.table "dbo.Users".toList).outcome
          serverOfUsers session.start []).result := by
  intro session operations stage
  refine ⟨serverOfUsers_isStable, by decide +kernel, ?_⟩
  exact session.table_after_operations serverOfUsers_isStable operations
    "dbo.Users".toList []

end SqlAnywhere
