import SqlAnywhere.Proofs.SessionOutcome

/-!
# Servers whose answers do not change

The catalog compares names in upper case.  As long as nothing else changes in
it, the answer to a call is told by the question and the values of its
parameters in upper case.  On such a server it makes no difference to a
program what was asked before, and references with one key are loaded alike.
-/

namespace SqlAnywhere

/--
Calls of one question whose parameters have the same names and, in upper
case, the same values.
-/
def Call.Alike (first second : Call) : Prop :=
  let inUpperCase (parameter : Parameter) : Text × Text :=
    (parameter.1, Text.upper parameter.2)
  first.query = second.query ∧
    first.parameters.map inUpperCase = second.parameters.map inUpperCase

theorem Call.alike_refl (call : Call) : call.Alike call :=
  ⟨rfl, rfl⟩

/--
The owners of names that agree in upper case are counted by calls that are
alike.
-/
theorem Call.alike_ownerCount
    {first second : Text} (names : Text.upper first = Text.upper second) :
    (Call.ownerCount first).Alike (.ownerCount second) :=
  ⟨rfl, by simp [Call.ownerCount, names]⟩

/-- Calls about tables are alike whose owners and names agree in upper case. -/
theorem Call.alike_aboutTable
    (query : CatalogQuery) {first second : TableName}
    (owners : Text.upper first.owner = Text.upper second.owner)
    (names : Text.upper first.name = Text.upper second.name) :
    (Call.aboutTable query first.owner first.name).Alike
      (.aboutTable query second.owner second.name) :=
  ⟨rfl, by simp [Call.aboutTable, owners, names]⟩

/--
A server whose answer is the same at any time and for all calls that are
alike.
-/
def Server.IsStable (server : Server) : Prop :=
  ∀ past past' call call',
    Call.Alike call call' → server past call = server past' call'

/-- A server whose answer to a call is the same at any time. -/
def Server.IsTimeless (server : Server) : Prop :=
  ∀ past past' call, server past call = server past' call

theorem Server.IsStable.isTimeless {server : Server}
    (stable : server.IsStable) : server.IsTimeless :=
  fun past past' call => stable past past' call call call.alike_refl

/-! ## Replies about a table -/

/-- Tables whose names have one key and that are else described as the same. -/
structure Table.SameContents (first second : Table) : Prop where
  key : first.name.key = second.name.key
  primaryKey : first.primaryKey = second.primaryKey
  columns : first.columns = second.columns
  foreignKeys : first.foreignKeys = second.foreignKeys
  generator : first.generator = second.generator

theorem Table.sameContents_refl (table : Table) : table.SameContents table :=
  ⟨rfl, rfl, rfl, rfl, rfl⟩

/--
Replies that are one failure, or both that there is no table, or tables of
the same contents.
-/
inductive SameReply :
    Except CatalogError (Option Table) →
      Except CatalogError (Option Table) → Prop where
  | failed (error : CatalogError) : SameReply (.error error) (.error error)
  | absent : SameReply (.ok none) (.ok none)
  | found {first second : Table} (same : first.SameContents second) :
      SameReply (.ok (some first)) (.ok (some second))

theorem sameReply_refl (reply : Except CatalogError (Option Table)) :
    SameReply reply reply := by
  rcases reply with error | _ | table
  · exact .failed error
  · exact .absent
  · exact .found table.sameContents_refl

/-! ## Programs -/

namespace Program

variable {Memory Failure Result : Type} {server : Server}

/-- A program runs alike after any calls. -/
theorem run_of_isTimeless
    (timeless : server.IsTimeless)
    (program : Program Memory Failure Result)
    (memory : Memory) (past past' : List Call) :
    program.run server memory past = program.run server memory past' := by
  induction program generalizing memory past past' with
  | done result => rfl
  | fail failure => rfl
  | ask call next ih => rw [run, run, timeless past past' call, ih]
  | note entry next ih => rw [run, run, ih]
  | consult next ih => rw [run, run, ih]
  | update change next ih => rw [run, run, ih]

/-- The outcome of a program is the same after any calls. -/
theorem outcome_of_isTimeless
    (timeless : server.IsTimeless)
    (program : Program Memory Failure Result)
    (memory : Memory) (past past' : List Call) :
    program.outcome server memory past =
      program.outcome server memory past' := by
  rw [outcome, run_of_isTimeless timeless program memory past past']
  rfl

theorem outcome_of_isStable
    (stable : server.IsStable)
    (program : Program Memory Failure Result)
    (memory : Memory) (past past' : List Call) :
    program.outcome server memory past =
      program.outcome server memory past' :=
  outcome_of_isTimeless stable.isTimeless program memory past past'

end Program

/-! ## The loader -/

namespace Loader

variable {server : Server} {family : ServerFamily} {past past' : List Call}

/-- A number of owners does not depend on how the name is spelled. -/
theorem ownersIn_of_ok
    {name : Text} {answer : Answer} {owners : Int64}
    (counted : ownersIn name answer = .ok owners) (other : Text) :
    ownersIn other answer = .ok owners := by
  rw [ownersIn_eq_ok_iff] at counted ⊢
  exact counted

/-- Names that agree in upper case are described alike. -/
theorem sameReply_describe
    (stable : server.IsStable) {first second : TableName}
    (owners : Text.upper first.owner = Text.upper second.owner)
    (names : Text.upper first.name = Text.upper second.name)
    {table : Option Table}
    (described :
      ((describe family first).outcome server () past).result = .ok table) :
    SameReply (.ok table)
      ((describe family second).outcome server () past').result := by
  -- Every call about the second name is answered as the one about the first.
  obtain ⟨answer, told⟩ :
      ∃ answer : (ServerFamily → CatalogQuery) → Answer, ∀ query past,
        server past (callAbout query family first) = answer query ∧
          server past (callAbout query family second) = answer query := by
    refine ⟨fun query => server [] (callAbout query family first), ?_⟩
    intro query past
    constructor
    · exact stable past [] _ _ (Call.alike_refl _)
    · exact stable past [] _ _
        (Call.alike_aboutTable (query family) owners.symm names.symm)
  have keys : first.key = second.key := by
    rw [TableName.key, TableName.key, Text.upper_append_dot,
      Text.upper_append_dot, owners, names]
  rw [outcome_describe] at described ⊢
  simp only [told] at described ⊢
  cases key : primaryKeyIn (answer .primaryKeys) with
  | error error =>
      rw [key] at described
      cases described
  | ok primaryKey =>
      simp only [key] at described ⊢
      cases listed : columnsIn primaryKey (answer .columns) with
      | error error =>
          simp only [listed] at described ⊢
          cases described
          exact .absent
      | ok columns =>
          cases columns with
          | nil =>
              simp only [listed] at described ⊢
              cases described
              exact .absent
          | cons column others =>
              simp only [listed] at described ⊢
              cases read : foreignKeysIn family (answer .foreignKeys) with
              | error error =>
                  simp only [read] at described
                  cases described
              | ok foreignKeys =>
                  simp only [read] at described ⊢
                  cases described
                  exact .found ⟨keys, rfl, rfl, rfl, rfl⟩

end Loader

/-! ## Loading through a session -/

namespace Session

variable {Cache : Type} {server : Server} {session : Session Cache}

/--
What is loaded for a reference is loaded for every reference with its key.
-/
theorem sameReply_loading
    (stable : server.IsStable) {first second : Text}
    (keys : session.key first = session.key second)
    {family : ServerFamily} {past past' : List Call} {table : Option Table}
    (loaded :
      (session.loading first server past family).result = .ok table) :
    SameReply (.ok table)
      (session.loading second server past' family).result := by
  obtain ⟨bares, owners, names⟩ := (key_eq_iff session first second).1 keys
  rw [← TableName.resolve_name first session.defaultOwner,
    ← TableName.resolve_name second session.defaultOwner] at names
  rw [loading] at loaded ⊢
  by_cases bare : TableName.IsBare first
  · rw [Loader.outcome_load_of_isBare family _ bare] at loaded
    rw [Loader.outcome_load_of_isBare family _ (bares.1 bare)]
    simp only at loaded ⊢
    have answer :
        server past'
            (.ownerCount
              (TableName.resolve second session.defaultOwner).name) =
          server past
            (.ownerCount
              (TableName.resolve first session.defaultOwner).name) :=
      stable past' past _ _ (Call.alike_ownerCount names.symm)
    rw [answer]
    split at loaded
    · cases loaded
    · next owners' counted =>
        rw [Loader.ownersIn_of_ok counted]
        split at loaded
        · cases loaded
        · next single =>
            simp only [if_neg single]
            exact Loader.sameReply_describe stable owners names loaded
  · rw [Loader.outcome_load_of_not_isBare family _ bare] at loaded
    rw [Loader.outcome_load_of_not_isBare family _ fun bare' =>
      bare (bares.2 bare')]
    exact Loader.sameReply_describe stable owners names loaded

end Session

end SqlAnywhere
