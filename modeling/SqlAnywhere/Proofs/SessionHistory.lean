import SqlAnywhere.Proofs.SessionOutcome

/-!
# Histories of a session

The operations of a session, and the stages that a sequence of them goes
through.  An operation fails or succeeds, and the next one starts from what it
leaves.

Each operation first drops entries of the memory, and then loads at most one
table.  What it leaves in the memory is told by these two steps: an entry was
there before and is not dropped, or it is the table loaded.
-/

namespace SqlAnywhere

/-- What a user can ask of a session. -/
inductive Operation where
  | load (reference : Text)
  | refresh (reference : Text)
  | forget (reference : Text)
  | forgetAll
  | family
  | tableNames (owner : Text)
  | restartKeys (reference : Text) (next : Option Int64)

/-- What a session replies. -/
inductive Reply where
  | table (table : Option Table)
  | family (family : ServerFamily)
  | names (names : List Text)
  | statement (statement : Option Text)
  | done

/-- What a session remembers, and the calls that were put to its server. -/
structure Stage (Cache : Type) where
  memory : Memory Cache
  past : List Call

variable {Cache : Type}

namespace Operation

/-- The reference whose table an operation loads, if it loads one. -/
def loads? : Operation → Option Text
  | .load reference | .refresh reference | .restartKeys reference _ =>
      some reference
  | .forget _ | .forgetAll | .family | .tableNames _ => none

/-- Whether an operation drops what is remembered under a key. -/
def Forgets (session : Session Cache) (key : Text) : Operation → Prop
  | .refresh reference | .forget reference => key ∈ session.keysOf reference
  | .forgetAll => True
  | .load _ | .family | .tableNames _ | .restartKeys _ _ => False

/-- What an operation makes of the table that it loads, the memory aside. -/
def conclude (server : Server) (past : List Call) (table : Option Table) :
    Operation → Outcome Unit CatalogError Reply
  | .restartKeys _ next =>
      (Session.restarted server past next table).map .statement
  | .load _ | .refresh _ | .forget _ | .forgetAll | .family | .tableNames _ =>
      ⟨.ok (.table table), (), []⟩

end Operation

variable [TableCache Cache]

namespace Operation

/-- The program of an operation. -/
def program (session : Session Cache) :
    Operation → Program (Memory Cache) CatalogError Reply
  | .load reference => do return .table (← session.table reference)
  | .refresh reference => do return .table (← session.refreshTable reference)
  | .forget reference => do
      session.forgetTable reference
      return .done
  | .forgetAll => do
      session.forgetAll
      return .done
  | .family => do return .family (← Session.family)
  | .tableNames owner => do return .names (← session.tableNames owner)
  | .restartKeys reference next => do
      return .statement (← session.restartKeys reference next)

/-- The outcome of an operation at a stage. -/
def outcome (server : Server) (session : Session Cache) (operation : Operation)
    (stage : Stage Cache) : Outcome (Memory Cache) CatalogError Reply :=
  (operation.program session).outcome server stage.memory stage.past

/-- What an operation leaves of the memory before it loads a table. -/
def drop (session : Session Cache) (memory : Memory Cache) :
    Operation → Memory Cache
  | .refresh reference | .forget reference =>
      session.forgotten reference memory
  | .forgetAll => memory.forgetAll session.pinned
  | .load _ | .family | .tableNames _ | .restartKeys _ _ => memory

end Operation

namespace Stage

/-- The stage at which a session begins. -/
def initial (session : Session Cache) : Stage Cache :=
  ⟨session.start, []⟩

@[simp]
theorem initial_memory (session : Session Cache) :
    (initial session).memory = session.start := rfl

/-- The stage after an operation. -/
def next (server : Server) (session : Session Cache) (stage : Stage Cache)
    (operation : Operation) : Stage Cache :=
  let outcome := operation.outcome server session stage
  ⟨outcome.memory, stage.past ++ outcome.calls⟩

/-- The stage after a sequence of operations. -/
def after (server : Server) (session : Session Cache)
    (operations : List Operation) : Stage Cache :=
  operations.foldl (next server session) (initial session)

@[simp]
theorem after_nil (server : Server) (session : Session Cache) :
    after server session [] = initial session := rfl

@[simp]
theorem after_concat (server : Server) (session : Session Cache)
    (operations : List Operation) (operation : Operation) :
    after server session (operations ++ [operation]) =
      (after server session operations).next server session operation := by
  rw [after, List.foldl_append]
  rfl

end Stage

namespace Operation

open Program

variable {server : Server} {session : Session Cache} {operation : Operation}
  {stage : Stage Cache}

/-! ## What an operation drops -/

/-- Nothing is left under a dropped key, and all else as before. -/
theorem find?_drop_of_forgets
    {key : Text} (memory : Memory Cache)
    (forgets : operation.Forgets session key) :
    (operation.drop session memory).find? key = none := by
  cases operation with
  | refresh reference | forget reference =>
      exact (Session.find?_forgotten session reference key memory).trans
        (if_pos forgets)
  | forgetAll => exact Memory.find?_forgetAll session.pinned key memory
  | load | family | tableNames | restartKeys => exact forgets.elim

/-- What an operation does not drop it leaves. -/
theorem find?_drop_of_not_forgets
    {key : Text} (memory : Memory Cache)
    (keeps : ¬ operation.Forgets session key) :
    (operation.drop session memory).find? key =
      memory.find? key := by
  cases operation with
  | refresh reference | forget reference =>
      exact (Session.find?_forgotten session reference key memory).trans
        (if_neg keeps)
  | forgetAll => exact (keeps trivial).elim
  | load | family | tableNames | restartKeys => rfl

/-- The family is left, or it is that with which the session begins. -/
theorem family_drop (memory : Memory Cache) :
    (operation.drop session memory).family = memory.family ∨
      (operation.drop session memory).family = session.pinned := by
  cases operation with
  | refresh reference | forget reference =>
      exact Or.inl (Session.family_forgotten session reference memory)
  | forgetAll => exact Or.inr rfl
  | load | family | tableNames | restartKeys => exact Or.inl rfl

/-- The family is dropped only with everything else. -/
theorem family_drop_of_ne
    (memory : Memory Cache) (ordinary : operation ≠ .forgetAll) :
    (operation.drop session memory).family = memory.family := by
  cases operation with
  | refresh reference | forget reference =>
      exact Session.family_forgotten session reference memory
  | forgetAll => exact absurd rfl ordinary
  | load | family | tableNames | restartKeys => rfl

/--
Memories that agree on a key agree on it when an operation has dropped its
entries.
-/
theorem find?_drop_congr
    {memory other : Memory Cache} {key : Text}
    (entry : other.find? key = memory.find? key) :
    (operation.drop session other).find? key =
      (operation.drop session memory).find? key := by
  by_cases forgets : operation.Forgets session key
  · rw [find?_drop_of_forgets _ forgets, find?_drop_of_forgets _ forgets]
  · rw [find?_drop_of_not_forgets _ forgets,
      find?_drop_of_not_forgets _ forgets, entry]

theorem family_drop_congr
    {memory other : Memory Cache} (family : other.family = memory.family) :
    (operation.drop session other).family =
      (operation.drop session memory).family := by
  cases operation with
  | refresh reference | forget reference =>
      rw [drop, drop, Session.family_forgotten, Session.family_forgotten,
        family]
  | forgetAll => rfl
  | load | family | tableNames | restartKeys => exact family

/-! ## What an operation comes to that loads no table -/

theorem outcome_forget (reference : Text) :
    (Operation.forget reference).outcome server session stage =
      ⟨.ok .done, session.forgotten reference stage.memory, []⟩ := by
  rw [outcome, program, outcome_bind, Session.outcome_forgetTable]
  rfl

theorem outcome_forgetAll :
    Operation.forgetAll.outcome server session stage =
      ⟨.ok .done, stage.memory.forgetAll session.pinned, []⟩ := by
  rw [outcome, program, outcome_bind, Session.outcome_forgetAll]
  rfl

theorem outcome_family :
    Operation.family.outcome server session stage =
      (Session.family.outcome server stage.memory stage.past).map .family := by
  rw [outcome, program, outcome_bind_pure]

theorem outcome_tableNames (owner : Text) :
    (Operation.tableNames owner).outcome server session stage =
      ((session.tableNames owner).outcome server stage.memory
        stage.past).map .names := by
  rw [outcome, program, outcome_bind_pure]

/-! ## What an operation loads -/

/--
An operation that loads a table does so from the memory that it leaves, and
then only makes something of the table.
-/
theorem outcome_of_loads?_some
    {reference : Text}
    (loads : operation.loads? = some reference) :
    operation.outcome server session stage =
      ((session.table reference).outcome server
        (operation.drop session stage.memory) stage.past).andThen
          fun table left calls =>
            (operation.conclude server (stage.past ++ calls)
              table).withMemory left := by
  cases operation with
  | load _ =>
      cases loads
      exact (outcome_bind_pure _ _).trans (Outcome.map_eq_andThen _ _)
  | refresh _ =>
      cases loads
      rw [outcome, program, outcome_bind_pure, Session.outcome_refreshTable]
      exact Outcome.map_eq_andThen _ _
  | restartKeys _ next =>
      cases loads
      rw [outcome, program, outcome_bind_pure, Session.outcome_restartKeys,
        drop]
      obtain ⟨result, left, calls⟩ :=
        (session.table reference).outcome server stage.memory stage.past
      cases result with
      | error error => rfl
      | ok table => rfl
  | forget | forgetAll | family | tableNames => cases loads

/--
An operation that loads a table leaves the memory that the loading leaves.
-/
theorem memory_of_loads?_some
    {reference : Text}
    (loads : operation.loads? = some reference) :
    (operation.outcome server session stage).memory =
      ((session.table reference).outcome server
        (operation.drop session stage.memory) stage.past).memory := by
  rw [outcome_of_loads?_some loads]
  obtain ⟨result, left, calls⟩ :=
    (session.table reference).outcome server
      (operation.drop session stage.memory) stage.past
  cases result with
  | error error => rfl
  | ok table => rfl

/--
An operation that loads no table leaves the tables that it does not drop, and
at most finds out the family.
-/
theorem memory_of_loads?_none
    (loads : operation.loads? = none) :
    (operation.outcome server session stage).memory =
        operation.drop session stage.memory ∨
      (operation.outcome server session stage).memory =
        (Session.family.outcome server stage.memory stage.past).memory ∧
      operation.drop session stage.memory = stage.memory := by
  cases operation with
  | load | refresh | restartKeys => cases loads
  | forget reference =>
      rw [outcome_forget]
      exact Or.inl rfl
  | forgetAll =>
      rw [outcome_forgetAll]
      exact Or.inl rfl
  | family =>
      rw [outcome_family]
      exact Or.inr ⟨rfl, rfl⟩
  | tableNames owner =>
      rw [outcome_tableNames]
      exact Or.inr ⟨Session.memory_tableNames session owner, rfl⟩

/-! ## What an operation leaves -/

/--
What is remembered after an operation was remembered before and is not
dropped, or is the table that the operation loads.
-/
theorem find?_outcome
    {key : Text} {table : Option Table}
    (remembered :
      (operation.outcome server session stage).memory.find? key =
        some table) :
    (stage.memory.find? key = some table ∧
        ¬ operation.Forgets session key) ∨
      ∃ reference,
        operation.loads? = some reference ∧
          session.key reference = key ∧
          (operation.drop session stage.memory).find? key = none ∧
          ((session.fetchTable reference).outcome server
            (operation.drop session stage.memory) stage.past).result =
              .ok table := by
  have kept :
      (operation.drop session stage.memory).find? key = some table →
        stage.memory.find? key = some table ∧
          ¬ operation.Forgets session key := by
    intro left
    have keeps : ¬ operation.Forgets session key := by
      intro forgets
      rw [find?_drop_of_forgets _ forgets] at left
      cases left
    rw [find?_drop_of_not_forgets _ keeps] at left
    exact ⟨left, keeps⟩
  cases loads : operation.loads? with
  | none =>
      rcases @memory_of_loads?_none _ _ server session operation stage loads
        with left | ⟨left, undropped⟩
      · rw [left] at remembered
        exact Or.inl (kept remembered)
      · rw [left, Session.find?_family, ← undropped] at remembered
        exact Or.inl (kept remembered)
  | some reference =>
      rw [memory_of_loads?_some loads] at remembered
      rcases Session.find?_table session reference remembered with
        before | ⟨here, unknown, loaded⟩
      · exact Or.inl (kept before)
      · exact Or.inr ⟨reference, rfl, here, unknown, loaded⟩

/--
The family after an operation is the one that it leaves, or the one that it
finds out.
-/
theorem family_outcome :
    (operation.outcome server session stage).memory.family =
        (operation.drop session stage.memory).family ∨
      ∃ family,
        Session.familyFrom (operation.drop session stage.memory)
            (server stage.past .version) = .ok family ∧
          (operation.outcome server session stage).memory.family =
            some family := by
  cases loads : operation.loads? with
  | none =>
      rcases @memory_of_loads?_none _ _ server session operation stage loads
        with left | ⟨left, undropped⟩
      · exact Or.inl (by rw [left])
      · rw [left, undropped]
        exact Session.family_family
  | some reference =>
      rw [memory_of_loads?_some loads]
      exact Session.family_table session reference

end Operation

end SqlAnywhere
