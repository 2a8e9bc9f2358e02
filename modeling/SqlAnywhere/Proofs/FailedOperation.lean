import SqlAnywhere.Proofs.CacheTransparency
import SqlAnywhere.Proofs.EntryHistory
import SqlAnywhere.Proofs.Forgetting

/-!
# Operations that fail

An operation that only asks remembers something about tables when it succeeds,
and not before.  Where it fails the tables are as they were, and at most the
family has been found out on the way.  A refresh drops its entries before it
asks for anything, so that they are gone whether it succeeds or not.
-/

namespace SqlAnywhere

variable {Cache : Type}

/--
A server that refuses the calls at some places in the order in which calls
arrive.
-/
def Server.refusingAt (server : Server) (places : List Nat) : Server :=
  fun past call =>
    if past.length ∈ places then
      .error (.database "connection lost".toList)
    else
      server past call

/--
Operations that ask for a table, for the family or for the tables of an
owner, and change nothing by themselves.
-/
def Operation.OnlyAsks : Operation → Prop
  | .load _ | .family | .tableNames _ => True
  | .refresh _ | .forget _ | .forgetAll | .restartKeys _ _ => False

/--
An outcome that leaves the tables of a memory, and its family unless this was
unknown and an answer to the question for the version told it.
-/
structure Outcome.KeepsMemory {Result : Type}
    (server : Server) (memory : Memory Cache) (past : List Call)
    (outcome : Outcome (Memory Cache) CatalogError Result) : Prop where
  tables : outcome.memory.tables = memory.tables
  family :
    outcome.memory.family = memory.family ∨
      memory.family = none ∧ [Call.version] <+: outcome.calls ∧
        ∃ family,
          Session.familyIn (server past .version) = .ok family ∧
            outcome.memory.family = some family

namespace Session

open Program TableName

variable {server : Server} {session : Session Cache}
  {memory : Memory Cache} {past : List Call}

/-! ## Failures that leave the memory -/

/-- Where no more than the family is remembered, the memory is kept. -/
theorem keepsMemory_of_rememberFamily {Result : Type}
    {family : ServerFamily}
    (found : familyFrom memory (server past .version) = .ok family)
    (result : Except CatalogError Result) (others : List Call) :
    Outcome.KeepsMemory server memory past
      ⟨result, memory.rememberFamily family,
        familyCalls memory ++ others⟩ := by
  refine ⟨rfl, ?_⟩
  cases known : memory.family with
  | some family' =>
      rw [familyFrom, known] at found
      cases found
      exact .inl rfl
  | none =>
      rw [familyFrom, known] at found
      rw [familyCalls, known]
      exact .inr ⟨rfl, List.prefix_append _ _, family, found, rfl⟩

theorem keepsMemory_family :
    (family.outcome server memory past).KeepsMemory server memory past := by
  rw [outcome_family]
  cases found : familyFrom memory (server past .version) with
  | error error => exact ⟨rfl, .inl rfl⟩
  | ok family =>
      simpa using keepsMemory_of_rememberFamily found (.ok family) []

theorem keepsMemory_tableNames (owner : Text) :
    ((session.tableNames owner).outcome server memory past).KeepsMemory
      server memory past := by
  rw [outcome_tableNames]
  cases found : familyFrom memory (server past .version) with
  | error error => exact ⟨rfl, .inl rfl⟩
  | ok family => exact keepsMemory_of_rememberFamily found _ _

variable [TableCache Cache]

/-- A table that cannot be loaded is not remembered. -/
theorem keepsMemory_fetchTable
    {reference : Text}
    (fails :
      ((session.fetchTable reference).outcome server memory past).Fails) :
    ((session.fetchTable reference).outcome server memory past).KeepsMemory
      server memory past := by
  obtain ⟨error, failed⟩ := fails
  rw [outcome_fetchTable] at failed ⊢
  cases found : familyFrom memory (server past .version) with
  | error cause => exact ⟨rfl, .inl rfl⟩
  | ok family =>
      simp only [found] at failed ⊢
      cases loaded :
          (session.loading reference server (past ++ familyCalls memory)
            family).result with
      | ok table =>
          rw [loaded] at failed
          cases failed
      | error cause => exact keepsMemory_of_rememberFamily found _ _

/-- A load that fails has no entry to give. -/
theorem find?_eq_none_of_fails
    {reference : Text}
    (fails :
      ((session.table reference).outcome server memory past).Fails) :
    memory.find? (session.key reference) = none := by
  cases known : memory.find? (session.key reference) with
  | none => rfl
  | some table =>
      rw [outcome_table_of_find?_some session reference known] at fails
      obtain ⟨error, failed⟩ := fails
      cases failed

theorem keepsMemory_table
    {reference : Text}
    (fails :
      ((session.table reference).outcome server memory past).Fails) :
    ((session.table reference).outcome server memory past).KeepsMemory
      server memory past := by
  have unknown := find?_eq_none_of_fails fails
  rw [outcome_table_of_find?_none session reference unknown] at fails ⊢
  exact keepsMemory_fetchTable fails

/-! ## Answers that tell no family -/

/-- A session that cannot find out the family loads no table. -/
theorem memory_table_of_familyIn_error
    (reference : Text) {error : CatalogError}
    (unknown : memory.family = none)
    (failed : familyIn (server past .version) = .error error) :
    ((session.table reference).outcome server memory past).memory =
      memory := by
  cases known : memory.find? (session.key reference) with
  | some table => rw [outcome_table_of_find?_some session reference known]
  | none =>
      have untold :
          familyFrom memory (server past .version) = .error error := by
        rw [familyFrom, unknown]
        exact failed
      rw [outcome_table_of_find?_none session reference known,
        outcome_fetchTable, untold]

end Session

variable [TableCache Cache]

namespace Operation

open Program

variable {server : Server} {session : Session Cache} {operation : Operation}
  {stage : Stage Cache} {error : CatalogError}

/--
An operation that only asks and fails leaves the tables, and no more than the
family has been found out.
-/
theorem keepsMemory_of_fails
    (asks : operation.OnlyAsks)
    (fails : (operation.outcome server session stage).Fails) :
    (operation.outcome server session stage).KeepsMemory server
      stage.memory stage.past := by
  -- What a reply is made of an answer does not bear on the memory.
  have seen {Value : Type} {change : Value → Reply}
      {asked : Outcome (Memory Cache) CatalogError Value}
      (keeps : asked.KeepsMemory server stage.memory stage.past) :
      (asked.map change).KeepsMemory server stage.memory stage.past :=
    ⟨keeps.tables, keeps.family⟩
  cases operation with
  | load reference =>
      rw [outcome, program, outcome_bind_pure] at fails ⊢
      exact seen (Session.keepsMemory_table (Outcome.fails_map_iff.1 fails))
  | family =>
      rw [outcome_family]
      exact seen Session.keepsMemory_family
  | tableNames owner =>
      rw [outcome_tableNames]
      exact seen (Session.keepsMemory_tableNames owner)
  | refresh | forget | forgetAll | restartKeys => exact asks.elim

/--
Where the family is unknown and no answer tells it, an operation remembers
nothing.
-/
theorem memory_of_familyIn_error
    (operation : Operation)
    (unknown : stage.memory.family = none)
    (failed :
      Session.familyIn (server stage.past .version) = .error error) :
    (operation.outcome server session stage).memory =
      operation.drop session stage.memory := by
  cases loads : operation.loads? with
  | none =>
      rcases @memory_of_loads?_none _ _ server session operation stage loads
        with left | ⟨left, undropped⟩
      · exact left
      · rw [left, undropped, Session.outcome_family, Session.familyFrom,
          unknown]
        simp only [failed]
  | some reference =>
      have ordinary : operation ≠ .forgetAll := by
        rintro rfl
        cases loads
      have unknown' :
          (operation.drop session stage.memory).family = none :=
        (family_drop_of_ne stage.memory ordinary).trans unknown
      rw [memory_of_loads?_some loads]
      exact Session.memory_table_of_familyIn_error reference unknown' failed

/--
A refresh that fails leaves the tables that it does not drop, and no others.
-/
theorem tables_of_refresh_fails
    {reference : Text}
    (fails :
      ((Operation.refresh reference).outcome server session stage).Fails) :
    ((Operation.refresh reference).outcome
        server session stage).memory.tables =
      (session.forgotten reference stage.memory).tables := by
  rw [outcome, program, outcome_bind_pure,
    Session.outcome_refreshTable_eq_fetchTable] at fails ⊢
  exact (Session.keepsMemory_fetchTable (Outcome.fails_map_iff.1 fails)).tables

end Operation

/--
What failures leave in the memory.  An operation that only asks leaves the
tables, and the family at most as the server told it; an answer that tells no
family leaves nothing in the memory; and after a refresh that fails, no
reference that compares equal to the refreshed one is answered from the
memory until it is loaded again.
-/
theorem Session.memory_after_failures
    (server : Server) (session : Session Cache) (stage : Stage Cache) :
    (∀ operation : Operation,
      operation.OnlyAsks →
        let outcome := operation.outcome server session stage
        outcome.Fails →
          outcome.KeepsMemory server stage.memory stage.past) ∧
    (∀ error : CatalogError,
      stage.memory.family = none →
        familyIn (server stage.past .version) = .error error →
          ∀ operation : Operation,
            (operation.outcome server session stage).memory =
              operation.drop session stage.memory) ∧
    ∀ first : Text,
      ((Operation.refresh first).outcome server session stage).Fails →
        ∀ (second : Text) (later : List Operation),
          TableName.sameReference first second session.defaultOwner →
            (∀ operation ∈ later,
              ¬ operation.LoadsKey session (session.key second)) →
              let left :=
                (stage.next server session (.refresh first)).through
                  server session later
              let loading :=
                (session.table second).outcome server left.memory left.past
              left.memory.find? (session.key second) = none ∧
                loading =
                  (session.fetchTable second).outcome server left.memory
                    left.past ∧
                loading.calls ≠ [] := by
  refine ⟨?_, ?_, ?_⟩
  · intro operation asks outcome fails
    exact Operation.keepsMemory_of_fails asks fails
  · intro error unknown failed operation
    exact operation.memory_of_familyIn_error unknown failed
  · intro first fails second later same idle left loading
    have dropped :
        (stage.next server session (.refresh first)).memory.find?
          (session.key second) = none := by
      rw [Stage.next, Memory.find?, Operation.tables_of_refresh_fails fails]
      exact session.find?_forgotten_of_sameReference stage.memory same
    have unknown :
        left.memory.find? (session.key second) = none :=
      Stage.find?_through_eq_none dropped idle
    have loaded :
        loading =
          (session.fetchTable second).outcome server left.memory left.past :=
      outcome_table_of_find?_none session second unknown
    refine ⟨unknown, loaded, ?_⟩
    rw [loaded]
    exact calls_fetchTable_ne_nil session second

/--
A refresh of a remembered table fails at its first question, and the table is
asked for again under another spelling after the family and another table
were.  A session whose first load fails after the question for the version
has found out the family and nothing else, and one that cannot find it out
remembers nothing.
-/
theorem Session.users_after_failures :
    let session : Session TableEntries := ⟨"dbo".toList, none, 1024⟩
    let remembering : Stage TableEntries :=
      Stage.after serverOfUsers session [.load "dbo.Users".toList]
    let breaking : Server := serverOfUsers.refusingAt [4]
    let later : List Operation := [.family, .load "acme.Users".toList]
    let left :=
      (remembering.next breaking session (.refresh "users".toList)).through
        breaking session later
    let unasked :=
      (Operation.load "users".toList).outcome (serverOfUsers.refusingAt [0])
        session (.initial session)
    let uncounted :=
      (Operation.load "users".toList).outcome (serverOfUsers.refusingAt [1])
        session (.initial session)
    ((remembering.memory.find?
        (session.key "[DBO].USERS".toList)).bind id).isSome ∧
      left.memory.find? (session.key "[DBO].USERS".toList) = none ∧
      ((session.table "[DBO].USERS".toList).outcome breaking left.memory
        left.past).calls ≠ [] ∧
      unasked.memory.family = none ∧
      uncounted.memory.tables = [] ∧
      uncounted.memory.family = some .v12 := by
  intro session remembering breaking later left unasked uncounted
  have idle :
      ∀ operation ∈ later,
        ¬ operation.LoadsKey session (session.key "[DBO].USERS".toList) := by
    rintro operation member ⟨reference, loads, here⟩
    rcases List.mem_pair.1 member with rfl | rfl
    · cases loads
    · cases loads
      exact absurd here (by decide +kernel)
  have dropped :=
    (memory_after_failures breaking session remembering).2.2 "users".toList
      (by decide +kernel) "[DBO].USERS".toList later (by decide) idle
  have untold :=
    (memory_after_failures (serverOfUsers.refusingAt [0]) session
      (.initial session)).2.1 _ rfl rfl (.load "users".toList)
  have told :=
    (memory_after_failures (serverOfUsers.refusingAt [1]) session
      (.initial session)).1 (.load "users".toList) trivial (by decide +kernel)
  refine ⟨by decide +kernel, dropped.1, dropped.2.2,
    congrArg Memory.family untold, told.tables, ?_⟩
  decide +kernel

end SqlAnywhere
