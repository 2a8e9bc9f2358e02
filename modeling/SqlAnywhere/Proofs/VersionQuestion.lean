import SqlAnywhere.Proofs.LoaderCourse
import SqlAnywhere.Proofs.SessionHistory
import SqlAnywhere.Proofs.StableServer

/-!
# The question for the version

An operation that knows the family of the server does not ask for the
version.  The same operation without the family does the same: it asks for
the version first and then all else, or, where it does not go by the family,
it does not ask for the version either.
-/

namespace SqlAnywhere

variable {Cache : Type}

/-- A memory that does not know the family. -/
def Memory.withoutFamily (memory : Memory Cache) : Memory Cache :=
  { memory with family := none }

/--
What becomes of an outcome without knowing the family: it is the same, and
the family stays unknown, or the question for the version comes first.
-/
inductive Outcome.Probes {Result : Type}
    (known : Outcome (Memory Cache) CatalogError Result) :
    Outcome (Memory Cache) CatalogError Result → Prop where
  | unasked : Probes known (known.withMemory known.memory.withoutFamily)
  | asked : Probes known (known.following [.version])

namespace Outcome.Probes

variable {First Second : Type}
  {known unknown : Outcome (Memory Cache) CatalogError First}

/--
The question for the version comes first also where something is made of the
result.
-/
theorem andThen (probes : known.Probes unknown)
    (next : First → Outcome Unit CatalogError Second) :
    (known.andThen fun value left _ => (next value).withMemory left).Probes
      (unknown.andThen fun value left _ => (next value).withMemory left) := by
  obtain ⟨result, left, calls⟩ := known
  cases probes with
  | unasked =>
      cases result with
      | error error => exact .unasked
      | ok value => exact .unasked
  | asked =>
      cases result with
      | error error => exact .asked
      | ok value => exact .asked

theorem map (probes : known.Probes unknown) (change : First → Second) :
    (known.map change).Probes (unknown.map change) := by
  rw [map_eq_andThen, map_eq_andThen]
  exact probes.andThen fun value => ⟨.ok (change value), (), []⟩

end Outcome.Probes

/-! ## What an operation asks without knowing the family -/

namespace Session

open Program

variable {server : Server} {session : Session Cache} {memory : Memory Cache}
  {family : ServerFamily} {past past' : List Call}

/--
What goes by the family asks for the version first where it is not known.
-/
theorem probes_family_bind {Result : Type}
    (timeless : server.IsTimeless)
    (told : familyIn (server [] .version) = .ok family)
    (known : memory.family = some family)
    (next : ServerFamily → Program (Memory Cache) CatalogError Result) :
    ((Session.family >>= next).outcome server memory past).Probes
      ((Session.family >>= next).outcome server memory.withoutFamily
        past') := by
  have found' :
      familyFrom memory.withoutFamily (server past' .version) =
        .ok family := by
    rw [timeless past' []]
    exact told
  have same : memory.rememberFamily family = memory := by
    rw [Memory.rememberFamily, ← known]
  have same' : memory.withoutFamily.rememberFamily family = memory := same
  rw [outcome_family_bind, outcome_family_bind, familyFrom_of_known known,
    found']
  simp only [same, same', familyCalls_of_known known, Outcome.following_nil]
  rw [outcome_of_isTimeless timeless _ memory
    (past' ++ familyCalls memory.withoutFamily) (past ++ [])]
  exact .asked

variable [TableCache Cache]

/--
Loading a table asks for the version first where the family is not known,
unless the table is remembered.
-/
theorem probes_table
    (timeless : server.IsTimeless)
    (told : familyIn (server [] .version) = .ok family)
    (known : memory.family = some family) (reference : Text) :
    ((session.table reference).outcome server memory past).Probes
      ((session.table reference).outcome server memory.withoutFamily
        past') := by
  cases entry : memory.find? (session.key reference) with
  | some table =>
      rw [outcome_table_of_find?_some session reference entry,
        @outcome_table_of_find?_some _ session reference server
          memory.withoutFamily past' _ table entry]
      exact .unasked
  | none =>
      rw [outcome_table_of_find?_none session reference entry,
        @outcome_table_of_find?_none _ session reference server
          memory.withoutFamily past' _ entry]
      exact probes_family_bind timeless told known _

theorem forgotten_withoutFamily
    (session : Session Cache) (reference : Text) (memory : Memory Cache) :
    session.forgotten reference memory.withoutFamily =
      (session.forgotten reference memory).withoutFamily := by
  rw [forgotten, forgotten]
  induction session.keysOf reference generalizing memory with
  | nil => rfl
  | cons key keys ih => exact ih (memory.forgetTable key)

/--
What restarting keys makes of a table does not depend on the calls before.
-/
theorem restarted_of_isTimeless
    (timeless : server.IsTimeless)
    (next : Option Int64) (table : Option Table) :
    restarted server past next table = restarted server past' next table := by
  have asked (table : Table) :
      nextKeyAsked server past table = nextKeyAsked server past' table := by
    rw [nextKeyAsked, nextKeyAsked]
    split
    · simp only [timeless past past']
    · rfl
  cases table with
  | none => rfl
  | some table => simp only [restarted, asked]

end Session

namespace Operation

open Program

variable {server : Server} {session : Session Cache} {operation : Operation}
  {memory : Memory Cache} {family : ServerFamily} {past past' : List Call}

/-- What an operation makes of a table does not depend on the calls before. -/
theorem conclude_of_isTimeless
    (timeless : server.IsTimeless) (table : Option Table) :
    operation.conclude server past table =
      operation.conclude server past' table := by
  cases operation with
  | restartKeys reference next =>
      rw [conclude, conclude,
        @Session.restarted_of_isTimeless server past past' timeless]
  | load | refresh | forget | forgetAll | family | tableNames => rfl

variable [TableCache Cache]

/-- An operation drops the same of a memory that does not know the family. -/
theorem drop_withoutFamily
    (session : Session Cache) (memory : Memory Cache)
    (ordinary : operation ≠ .forgetAll) :
    operation.drop session memory.withoutFamily =
      (operation.drop session memory).withoutFamily := by
  cases operation with
  | refresh reference | forget reference =>
      exact session.forgotten_withoutFamily reference memory
  | forgetAll => exact absurd rfl ordinary
  | load | family | tableNames | restartKeys => rfl

/--
An operation asks for the version first where the family is not known, or not
at all.
-/
theorem probes
    (timeless : server.IsTimeless)
    (told : Session.familyIn (server [] .version) = .ok family)
    (known : memory.family = some family)
    (ordinary : operation ≠ .forgetAll) :
    (operation.outcome server session ⟨memory, past⟩).Probes
      (operation.outcome server session ⟨memory.withoutFamily, past'⟩) := by
  cases loads : operation.loads? with
  | some reference =>
      have dropped :
          (operation.drop session memory).family = some family := by
        rw [family_drop_of_ne memory ordinary, known]
      rw [outcome_of_loads?_some loads, outcome_of_loads?_some loads]
      simp only [drop_withoutFamily session memory ordinary,
        fun past => @conclude_of_isTimeless server operation past [] timeless]
      exact
        (Session.probes_table timeless told dropped reference).andThen
          (operation.conclude server [])
  | none =>
      cases operation with
      | load | refresh | restartKeys => cases loads
      | forget reference =>
          rw [outcome_forget, outcome_forget,
            session.forgotten_withoutFamily]
          exact .unasked
      | forgetAll => exact absurd rfl ordinary
      | family => exact Session.probes_family_bind timeless told known _
      | tableNames owner =>
          rw [outcome_tableNames, outcome_tableNames]
          exact
            (Session.probes_family_bind timeless told known _).map Reply.names

end Operation

/-! ## What an operation asks when it knows the family -/

/-- The loader does not ask for the version. -/
theorem Loader.version_notMem_calls_load
    {Memory : Type} {server : Server} {memory : Memory} {past : List Call}
    (family : ServerFamily) (defaultOwner reference : Text) :
    Call.version ∉
      ((load family defaultOwner reference).outcome
        server memory past).calls := by
  intro member
  have course :=
    course_of_load server memory past family defaultOwner reference
  rcases List.mem_append.1 (course.calls_isPrefix.subset member) with
    counting | about
  · rw [Inquiry.counting] at counting
    split at counting
    · cases congrArg Call.query (List.mem_singleton.1 counting)
    · cases counting
  · simp only [List.mem_cons, List.not_mem_nil, or_false] at about
    rcases about with asked | asked | asked <;>
      cases congrArg Call.query asked

namespace Session

variable [TableCache Cache] {server : Server} {session : Session Cache}
  {memory : Memory Cache} {family : ServerFamily} {past : List Call}

theorem version_notMem_calls_table
    (known : memory.family = some family) (reference : Text) :
    Call.version ∉
      ((session.table reference).outcome server memory past).calls := by
  cases entry : memory.find? (session.key reference) with
  | some table =>
      rw [outcome_table_of_find?_some session reference entry]
      exact List.not_mem_nil
  | none =>
      rw [outcome_table_of_find?_none session reference entry,
        calls_fetchTable, familyFrom_of_known known,
        familyCalls_of_known known]
      exact Loader.version_notMem_calls_load family _ reference

theorem version_notMem_calls_restarted
    (next : Option Int64) (table : Option Table) :
    Call.version ∉ (restarted server past next table).calls := by
  have asked (table : Table) :
      Call.version ∉ (nextKeyAsked server past table).calls := by
    rw [nextKeyAsked]
    split
    · intro member
      cases congrArg Call.query (List.mem_singleton.1 member)
    · exact List.not_mem_nil
  cases table with
  | none => exact List.not_mem_nil
  | some table =>
      simp only [restarted]
      split
      · exact List.not_mem_nil
      · cases next with
        | none => exact asked table
        | some next => exact List.not_mem_nil

end Session

namespace Operation

open Program

variable [TableCache Cache] {server : Server} {session : Session Cache}
  {operation : Operation} {memory : Memory Cache} {family : ServerFamily}
  {past : List Call}

/-- An operation that knows the family does not ask for the version. -/
theorem version_notMem_calls
    (known : memory.family = some family) :
    Call.version ∉
      (operation.outcome server session ⟨memory, past⟩).calls := by
  cases loads : operation.loads? with
  | some reference =>
      have ordinary : operation ≠ .forgetAll := by
        rintro rfl
        cases loads
      have dropped :
          (operation.drop session memory).family = some family := by
        rw [family_drop_of_ne memory ordinary, known]
      have loading :=
        @Session.version_notMem_calls_table _ _ server session
          (operation.drop session memory) family past dropped reference
      rw [outcome_of_loads?_some loads]
      simp only
      generalize (session.table reference).outcome server
        (operation.drop session memory) past = loaded at loading
      obtain ⟨result, left, calls⟩ := loaded
      cases result with
      | error error => exact loading
      | ok table =>
          intro member
          rcases List.mem_append.1 member with member | member
          · exact loading member
          · cases operation with
            | restartKeys reference next =>
                exact Session.version_notMem_calls_restarted next table member
            | load | refresh | forget | forgetAll | family | tableNames =>
                exact List.not_mem_nil member
  | none =>
      have found (answer : Answer) :
          Session.familyFrom memory answer = .ok family :=
        Session.familyFrom_of_known known answer
      have silent : Session.familyCalls memory = [] :=
        Session.familyCalls_of_known known
      cases operation with
      | load | refresh | restartKeys => cases loads
      | forget reference =>
          rw [outcome_forget]
          exact List.not_mem_nil
      | forgetAll =>
          rw [outcome_forgetAll]
          exact List.not_mem_nil
      | family =>
          rw [outcome_family, Session.outcome_family, found]
          simp only [silent]
          exact List.not_mem_nil
      | tableNames owner =>
          rw [outcome_tableNames, Session.outcome_tableNames, found]
          simp only [silent]
          intro member
          cases congrArg Call.query (List.mem_singleton.1 member)

end Operation

end SqlAnywhere
