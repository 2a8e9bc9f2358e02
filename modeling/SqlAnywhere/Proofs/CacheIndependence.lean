import SqlAnywhere.Proofs.SessionHistory

/-!
# The choice of a cache

To a session, caches that give up nothing are all alike.  Whichever of them
it keeps its tables in, and with whatever capacity, it replies the same to
the same operations and puts the same calls to the server.  What carries this
is that the memories agree: the same is remembered under each key, and of the
family.  One operation keeps it so, and hence any number of them.
-/

namespace SqlAnywhere

variable {Cache Cache' : Type} [TableCache Cache] [TableCache Cache']

/-- Sessions that are set up alike, but for their caches. -/
structure Session.Agrees
    (session : Session Cache) (other : Session Cache') : Prop where
  owner : other.defaultOwner = session.defaultOwner
  pinned : other.pinned = session.pinned

/-- Memories with the same entry under each key, and the same family. -/
structure Memory.Agrees
    (memory : Memory Cache) (other : Memory Cache') : Prop where
  entry : ∀ key, other.find? key = memory.find? key
  family : other.family = memory.family

/-- Outcomes that differ only in the caches of the memories that are left. -/
structure Outcome.Agrees {Failure Result : Type}
    (outcome : Outcome (Memory Cache) Failure Result)
    (other : Outcome (Memory Cache') Failure Result) : Prop where
  result : other.result = outcome.result
  calls : other.calls = outcome.calls
  memory : outcome.memory.Agrees other.memory

/-- Stages after the same calls, with memories that agree. -/
structure Stage.Agrees
    (stage : Stage Cache) (other : Stage Cache') : Prop where
  memory : stage.memory.Agrees other.memory
  past : other.past = stage.past

/-! ## Memories that agree -/

namespace Memory.Agrees

variable {memory : Memory Cache} {memory' : Memory Cache'}

theorem rememberFamily (agrees : memory.Agrees memory')
    (family : ServerFamily) :
    (memory.rememberFamily family).Agrees (memory'.rememberFamily family) :=
  ⟨agrees.entry, rfl⟩

/-- Caches that give up nothing are told of a table alike. -/
theorem rememberTable (agrees : memory.Agrees memory')
    (never : TableCache.NeverEvicts Cache)
    (never' : TableCache.NeverEvicts Cache')
    (key : Text) (table : Option Table) :
    (memory.rememberTable key table).Agrees
      (memory'.rememberTable key table) := by
  refine ⟨fun other => ?_, agrees.family⟩
  rw [find?_rememberTable_of_neverEvicts never,
    find?_rememberTable_of_neverEvicts never', agrees.entry]

/-- The family is found out alike. -/
theorem familyFrom_eq (agrees : memory.Agrees memory') (answer : Answer) :
    Session.familyFrom memory' answer = Session.familyFrom memory answer := by
  rw [Session.familyFrom, Session.familyFrom, agrees.family]

theorem familyCalls_eq (agrees : memory.Agrees memory') :
    Session.familyCalls memory' = Session.familyCalls memory := by
  rw [Session.familyCalls, Session.familyCalls, agrees.family]

end Memory.Agrees

/-- Memories agree once everything is forgotten. -/
theorem Memory.agrees_forgetAll (memory : Memory Cache)
    (memory' : Memory Cache') (pinned : Option ServerFamily) :
    (memory.forgetAll pinned).Agrees (memory'.forgetAll pinned) := by
  refine ⟨fun key => ?_, rfl⟩
  rw [find?_forgetAll, find?_forgetAll]

/-- Outcomes that agree go on alike where the memory is left as it is. -/
theorem Outcome.Agrees.andThen {Failure First Second : Type}
    {outcome : Outcome (Memory Cache) Failure First}
    {other : Outcome (Memory Cache') Failure First}
    (agrees : outcome.Agrees other)
    (next : First → List Call → Outcome Unit Failure Second) :
    (outcome.andThen fun value left calls =>
        (next value calls).withMemory left).Agrees
      (other.andThen fun value left calls =>
        (next value calls).withMemory left) := by
  obtain ⟨result, left, calls⟩ := outcome
  obtain ⟨result', left', calls'⟩ := other
  obtain ⟨rfl, rfl, same⟩ := agrees
  cases result' with
  | error failure => exact ⟨rfl, rfl, same⟩
  | ok value => exact ⟨rfl, rfl, same⟩

theorem Outcome.Agrees.map {Failure First Second : Type}
    {outcome : Outcome (Memory Cache) Failure First}
    {other : Outcome (Memory Cache') Failure First}
    (agrees : outcome.Agrees other) (change : First → Second) :
    (outcome.map change).Agrees (other.map change) := by
  rw [map_eq_andThen, map_eq_andThen]
  exact agrees.andThen fun value _ => ⟨.ok (change value), (), []⟩

/-! ## Sessions that agree -/

namespace Session.Agrees

variable {server : Server} {session : Session Cache}
  {session' : Session Cache'} {memory : Memory Cache}
  {memory' : Memory Cache'} {past : List Call}

theorem start (same : session.Agrees session') :
    session.start.Agrees session'.start := by
  refine ⟨fun key => ?_, same.pinned⟩
  rw [find?_start, find?_start]

omit [TableCache Cache] [TableCache Cache'] in
theorem key_eq (same : session.Agrees session') (reference : Text) :
    session'.key reference = session.key reference := by
  rw [key, key, same.owner]

theorem forgotten (same : session.Agrees session')
    (agrees : memory.Agrees memory') (reference : Text) :
    (session.forgotten reference memory).Agrees
      (session'.forgotten reference memory') := by
  constructor
  · intro key
    rw [find?_forgotten, find?_forgotten, keysOf, keysOf, same.owner,
      agrees.entry]
  · rw [family_forgotten, family_forgotten, agrees.family]

/-- The family is found out, and remembered, alike. -/
theorem family (agrees : memory.Agrees memory') :
    (Session.family.outcome server memory past).Agrees
      (Session.family.outcome server memory' past) := by
  rw [outcome_family, outcome_family, agrees.familyFrom_eq,
    agrees.familyCalls_eq]
  cases familyFrom memory (server past .version) with
  | error error => exact ⟨rfl, rfl, agrees⟩
  | ok family => exact ⟨rfl, rfl, agrees.rememberFamily family⟩

theorem tableNames (same : session.Agrees session')
    (agrees : memory.Agrees memory') (owner : Text) :
    ((session.tableNames owner).outcome server memory past).Agrees
      ((session'.tableNames owner).outcome server memory' past) := by
  rw [outcome_tableNames, outcome_tableNames, agrees.familyFrom_eq,
    agrees.familyCalls_eq, same.owner]
  cases familyFrom memory (server past .version) with
  | error error => exact ⟨rfl, rfl, agrees⟩
  | ok family => exact ⟨rfl, rfl, agrees.rememberFamily family⟩

section Loading

variable (never : TableCache.NeverEvicts Cache)
  (never' : TableCache.NeverEvicts Cache')
include never never'

theorem fetchTable (same : session.Agrees session')
    (agrees : memory.Agrees memory') (reference : Text) :
    ((session.fetchTable reference).outcome server memory past).Agrees
      ((session'.fetchTable reference).outcome server memory' past) := by
  have loading : session'.loading = session.loading := by
    funext reference server past family
    rw [Session.loading, Session.loading, same.owner]
  rw [outcome_fetchTable, outcome_fetchTable, agrees.familyFrom_eq,
    agrees.familyCalls_eq, loading, same.key_eq]
  cases familyFrom memory (server past .version) with
  | error error => exact ⟨rfl, rfl, agrees⟩
  | ok family =>
      have known := agrees.rememberFamily family
      simp only
      split
      · exact ⟨rfl, rfl, known⟩
      · exact ⟨rfl, rfl, known.rememberTable never never' _ _⟩

/-- A table is found in both memories, or loaded alike. -/
theorem table (same : session.Agrees session')
    (agrees : memory.Agrees memory') (reference : Text) :
    ((session.table reference).outcome server memory past).Agrees
      ((session'.table reference).outcome server memory' past) := by
  have entry :
      memory'.find? (session'.key reference) =
        memory.find? (session.key reference) := by
    rw [same.key_eq, agrees.entry]
  cases known : memory.find? (session.key reference) with
  | some found =>
      rw [outcome_table_of_find?_some session reference known,
        outcome_table_of_find?_some session' reference (entry.trans known)]
      exact ⟨rfl, rfl, agrees⟩
  | none =>
      rw [outcome_table_of_find?_none session reference known,
        outcome_table_of_find?_none session' reference (entry.trans known)]
      exact same.fetchTable never never' agrees reference

end Loading

end Session.Agrees

/-! ## Operations -/

namespace Session.Agrees

variable {server : Server} {session : Session Cache}
  {session' : Session Cache'} {stage : Stage Cache} {stage' : Stage Cache'}

theorem drop {memory : Memory Cache} {memory' : Memory Cache'}
    (same : session.Agrees session') (agrees : memory.Agrees memory')
    (operation : Operation) :
    (operation.drop session memory).Agrees
      (operation.drop session' memory') := by
  cases operation with
  | refresh reference | forget reference =>
      exact same.forgotten agrees reference
  | forgetAll =>
      rw [Operation.drop, Operation.drop, same.pinned]
      exact memory.agrees_forgetAll memory' session.pinned
  | load | family | tableNames | restartKeys => exact agrees

variable (never : TableCache.NeverEvicts Cache)
  (never' : TableCache.NeverEvicts Cache')
include never never'

/-- An operation has outcomes that agree, in stages that do. -/
theorem outcome (same : session.Agrees session')
    (agrees : stage.Agrees stage') (operation : Operation) :
    (operation.outcome server session stage).Agrees
      (operation.outcome server session' stage') := by
  obtain ⟨memory, past⟩ := stage
  obtain ⟨memory', past'⟩ := stage'
  obtain ⟨agrees, rfl⟩ := agrees
  have dropped := same.drop agrees operation
  cases loads : operation.loads? with
  | some reference =>
      rw [Operation.outcome_of_loads?_some loads,
        Operation.outcome_of_loads?_some loads]
      exact (same.table never never' dropped reference).andThen
        fun table calls => operation.conclude server (past' ++ calls) table
  | none =>
      cases operation with
      | load | refresh | restartKeys => cases loads
      | forget reference =>
          rw [Operation.outcome_forget, Operation.outcome_forget]
          exact ⟨rfl, rfl, dropped⟩
      | forgetAll =>
          rw [Operation.outcome_forgetAll, Operation.outcome_forgetAll]
          exact ⟨rfl, rfl, dropped⟩
      | family =>
          rw [Operation.outcome_family, Operation.outcome_family]
          exact (family agrees).map Reply.family
      | tableNames owner =>
          rw [Operation.outcome_tableNames, Operation.outcome_tableNames]
          exact (same.tableNames agrees owner).map Reply.names

/-- After the same operations, stages agree. -/
theorem after (same : session.Agrees session') (server : Server)
    (operations : List Operation) :
    (Stage.after server session operations).Agrees
      (Stage.after server session' operations) := by
  induction operations using List.reverseRecOn with
  | nil => exact ⟨same.start, rfl⟩
  | append_singleton operations operation ih =>
      have last :
          (operation.outcome server session
              (.after server session operations)).Agrees
            (operation.outcome server session'
              (.after server session' operations)) :=
        same.outcome never never' ih operation
      rw [Stage.after_concat, Stage.after_concat]
      refine ⟨last.memory, ?_⟩
      rw [Stage.next, Stage.next, ih.past, last.calls]

end Session.Agrees

end SqlAnywhere
