import SqlAnywhere.Proofs.LoadedTable
import SqlAnywhere.Proofs.SessionHistory

/-!
# The tables of a session

A session gives the tables that it loads, and those that it remembers from
earlier loads.  Either way a table has a name to which some reference resolves,
and rows of the catalog describe it.
-/

namespace SqlAnywhere

variable {Cache : Type}

/--
A table as a session gives it: named as some reference resolves, and
described by rows.
-/
structure Table.IsGivenBy (session : Session Cache) (table : Table) :
    Prop where
  named :
    ∃ reference, table.name = TableName.resolve reference session.defaultOwner
  described : ∃ rows, table.IsDescribedBy rows

namespace Session

variable [TableCache Cache] {server : Server} {session : Session Cache}

/-- A memory holds no other tables than a session gives. -/
def HoldsGiven (session : Session Cache) (memory : Memory Cache) : Prop :=
  ∀ key table, memory.find? key = some (some table) →
    table.IsGivenBy session

/-! ## Tables loaded and remembered -/

/--
What a session loads has the name to which the reference resolves, and rows
describe it.
-/
theorem described_of_fetchTable
    {memory : Memory Cache} {past : List Call} {reference : Text}
    {table : Table}
    (loaded :
      ((session.fetchTable reference).outcome server memory past).result =
        .ok (some table)) :
    table.name = TableName.resolve reference session.defaultOwner ∧
      ∃ rows, table.IsDescribedBy rows := by
  rw [result_fetchTable] at loaded
  obtain ⟨family, -, loaded⟩ := Traversal.bind_eq_ok_iff.1 loaded
  obtain ⟨named, rows, -, -, described⟩ :=
    (Loader.course_of_load server () (past ++ familyCalls memory) family
      session.defaultOwner reference).isDescribedBy loaded
  rw [Loader.inquiryOf_name] at named
  exact ⟨named, rows, described⟩

section Property

variable (Holds : Text → Table → Prop)
  (loads :
    ∀ {memory : Memory Cache} {past : List Call} {reference : Text}
      {table : Table},
      ((session.fetchTable reference).outcome server memory past).result =
        .ok (some table) →
      Holds (session.key reference) table)
include loads

/--
What holds of the tables that a session loads, each with its key, holds of
those that it remembers at every stage.
-/
theorem holds_of_remembered (operations : List Operation)
    {key : Text} {table : Table}
    (remembered :
      (Stage.after server session operations).memory.find? key =
        some (some table)) :
    Holds key table := by
  induction operations using List.reverseRecOn with
  | nil => simp at remembered
  | append_singleton operations operation ih =>
      rw [Stage.after_concat] at remembered
      -- An operation loads one table at most, and remembers no other new one.
      rcases operation.find?_outcome remembered with
        ⟨before, -⟩ | ⟨reference, -, rfl, -, loaded⟩
      · exact ih before
      · exact loads loaded

/--
What holds of the tables that a session loads and remembers holds of those
that it gives.
-/
theorem holds_of_table {memory : Memory Cache} {past : List Call}
    {reference : Text} {table : Table}
    (remembered : ∀ key table,
      memory.find? key = some (some table) → Holds key table)
    (given :
      ((session.table reference).outcome server memory past).result =
        .ok (some table)) :
    Holds (session.key reference) table := by
  cases known : memory.find? (session.key reference) with
  | some found =>
      rw [outcome_table_of_find?_some session reference known] at given
      rw [Except.ok.inj given] at known
      exact remembered _ _ known
  | none =>
      rw [outcome_table_of_find?_none session reference known] at given
      exact loads given

end Property

/-! ## What a session gives -/

/-- What a session loads it gives. -/
theorem isGivenBy_of_fetchTable
    {memory : Memory Cache} {past : List Call} {reference : Text}
    {table : Table}
    (loaded :
      ((session.fetchTable reference).outcome server memory past).result =
        .ok (some table)) :
    table.IsGivenBy session := by
  obtain ⟨named, described⟩ := described_of_fetchTable loaded
  exact ⟨⟨reference, named⟩, described⟩

/-- At every stage, a session remembers no other tables than it gives. -/
theorem holdsGiven_after
    (server : Server) (session : Session Cache) (operations : List Operation) :
    session.HoldsGiven (Stage.after server session operations).memory :=
  fun _ _ => holds_of_remembered (fun _ table => table.IsGivenBy session)
    isGivenBy_of_fetchTable operations

/-- A table that a reference gives is one that the session gives. -/
theorem HoldsGiven.isGivenBy_of_table
    {memory : Memory Cache} {past : List Call} {reference : Text}
    {table : Table}
    (holds : session.HoldsGiven memory)
    (given :
      ((session.table reference).outcome server memory past).result =
        .ok (some table)) :
    table.IsGivenBy session :=
  holds_of_table (fun _ table => table.IsGivenBy session)
    isGivenBy_of_fetchTable holds given

/-- A table whose name some reference with a key resolves to. -/
def IsKeyed (session : Session Cache) (key : Text) (table : Table) : Prop :=
  ∃ source, session.key source = key ∧
    table.name = TableName.resolve source session.defaultOwner

/--
At every stage, a table that a reference gives has a name to which a
reference with the same key resolves.
-/
theorem isKeyed_of_table (operations : List Operation)
    {reference : Text} {table : Table}
    (given :
      let stage := Stage.after server session operations
      ((session.table reference).outcome
        server stage.memory stage.past).result = .ok (some table)) :
    session.IsKeyed (session.key reference) table := by
  have loads {memory : Memory Cache} {past : List Call} {source : Text}
      {table : Table}
      (loaded :
        ((session.fetchTable source).outcome server memory past).result =
          .ok (some table)) :
      session.IsKeyed (session.key source) table :=
    ⟨source, rfl, (described_of_fetchTable loaded).1⟩
  exact holds_of_table session.IsKeyed loads
    (fun _ _ => holds_of_remembered session.IsKeyed loads operations) given

/-- A result that holds a table with a property gives it. -/
theorem exists_table_of_any
    {result : Except CatalogError (Option Table)} {Holds : Table → Prop}
    [DecidablePred Holds] (holds : result.toOption.join.any (Holds ·)) :
    ∃ table, result = .ok (some table) ∧ Holds table := by
  rcases result with error | _ | table
  · cases holds
  · cases holds
  · exact ⟨table, rfl, of_decide_eq_true holds⟩

end Session

end SqlAnywhere
