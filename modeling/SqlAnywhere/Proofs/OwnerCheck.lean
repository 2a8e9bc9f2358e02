import SqlAnywhere.Proofs.SessionHistory

/-!
# No name without an owner goes unchecked

A name without an owner is given a table only after its owners were counted
and found to be one at most.  The count may be an earlier one: then the table
was remembered by the operation that counted, and no later operation has
dropped it.  References with an owner have no part in this, neither do they
leave a table under a bare name nor are they given one.
-/

namespace SqlAnywhere

/-! ## Counting in a load -/

namespace Loader

variable {Memory : Type}
  {server : Server} {memory : Memory} {past : List Call}

/-- Describing a table whose name is settled counts no owners. -/
theorem ownerCount_notMem_calls_describe
    (family : ServerFamily) (table : TableName) (name : Text) :
    Call.ownerCount name ∉
      ((describe family table).outcome server memory past).calls := by
  rw [outcome_describe]
  simp only
  split
  · simp [callAbout, Call.aboutTable, Call.ownerCount]
  · split <;> simp [callAbout, Call.aboutTable, Call.ownerCount]

variable (family : ServerFamily) (defaultOwner : Text) {reference : Text}

/-- Loading a name without an owner counts its owners first, and once. -/
theorem calls_load_of_isBare (bare : TableName.IsBare reference) :
    let count := Call.ownerCount (TableName.split reference).2
    ∃ others,
      ((load family defaultOwner reference).outcome
          server memory past).calls = count :: others ∧
        count ∉ others := by
  intro count
  rw [outcome_load_of_isBare family defaultOwner bare]
  simp only [TableName.resolve_name]
  split
  · exact ⟨[], rfl, List.not_mem_nil⟩
  · split
    · exact ⟨[], rfl, List.not_mem_nil⟩
    · exact ⟨_, rfl, ownerCount_notMem_calls_describe family _ _⟩

/-- A name without an owner that is loaded has one owner at most. -/
theorem owners_of_load_ok
    (bare : TableName.IsBare reference) {table : Option Table}
    (loaded :
      ((load family defaultOwner reference).outcome
        server memory past).result = .ok table) :
    let name := (TableName.split reference).2
    ∃ owners,
      ownersIn name (server past (.ownerCount name)) = .ok owners ∧
        ¬ 1 < owners := by
  intro name
  rw [outcome_load_of_isBare family defaultOwner bare] at loaded
  simp only [TableName.resolve_name] at loaded
  split at loaded
  · cases loaded
  · next owners counted =>
      split at loaded
      · cases loaded
      · next single => exact ⟨owners, counted, single⟩

/--
Loading a name without an owner that several owners have ends with the count.
-/
theorem outcome_load_of_several
    (bare : TableName.IsBare reference) {owners : Int64}
    (counted :
      ownersIn (TableName.split reference).2
          (server past (.ownerCount (TableName.split reference).2)) =
        .ok owners)
    (several : 1 < owners) :
    (load family defaultOwner reference).outcome server memory past =
      ⟨.error (.ambiguousName (TableName.split reference).2 owners), memory,
        [.ownerCount (TableName.split reference).2]⟩ := by
  rw [outcome_load_of_isBare family defaultOwner bare]
  simp only [TableName.resolve_name, counted, if_pos several]

end Loader

namespace Session

open TableName

variable {Cache : Type} (session : Session Cache) {reference : Text}
  {server : Server} {memory : Memory Cache} {past : List Call}

theorem ownerCount_notMem_familyCalls (memory : Memory Cache) (name : Text) :
    Call.ownerCount name ∉ familyCalls memory := by
  intro member
  have version := congrArg Call.query (eq_version_of_mem_familyCalls member)
  cases version

/--
The owners of a name without one are counted first, and once, when the family
is known.
-/
theorem calls_loading_of_isBare
    (bare : IsBare reference) (server : Server) (past : List Call)
    (family : ServerFamily) :
    ∃ others,
      (session.loading reference server past family).calls =
          .ownerCount (split reference).2 :: others ∧
        Call.ownerCount (split reference).2 ∉ others :=
  Loader.calls_load_of_isBare family session.defaultOwner bare

variable [TableCache Cache]

/--
A name without an owner that is loaded into the memory was counted, to one
owner at most.
-/
theorem owners_of_fetchTable_ok
    (bare : IsBare reference) {table : Option Table}
    (given :
      ((session.fetchTable reference).outcome server memory past).result =
        .ok table) :
    let name := (split reference).2
    ∃ owners before others,
      ((session.fetchTable reference).outcome server memory past).calls =
          before ++ .ownerCount name :: others ∧
        Loader.ownersIn name (server (past ++ before) (.ownerCount name)) =
          .ok owners ∧
        ¬ 1 < owners := by
  intro name
  rw [result_fetchTable] at given
  rw [calls_fetchTable]
  cases found : familyFrom memory (server past .version) with
  | error error =>
      rw [found] at given
      cases given
  | ok family =>
      rw [found] at given
      obtain ⟨owners, counted, single⟩ :=
        Loader.owners_of_load_ok family session.defaultOwner bare given
      obtain ⟨others, calls, -⟩ :=
        session.calls_loading_of_isBare bare server
          (past ++ familyCalls memory) family
      refine ⟨owners, familyCalls memory, others, ?_, counted, single⟩
      exact congrArg (familyCalls memory ++ ·) calls

/--
Where the owners of a name without one are counted, the family is known, the
calls before the count are those for the family, and the count is the first
call of the loader.
-/
theorem exists_family_of_asked
    (bare : IsBare reference) {before others : List Call}
    (asked :
      ((session.fetchTable reference).outcome server memory past).calls =
        before ++ .ownerCount (split reference).2 :: others) :
    ∃ family,
      familyFrom memory (server past .version) = .ok family ∧
        before = familyCalls memory ∧
        (session.loading reference server (past ++ before) family).calls =
          .ownerCount (split reference).2 :: others := by
  rw [calls_fetchTable] at asked
  cases found : familyFrom memory (server past .version) with
  | error error =>
      rw [found] at asked
      have member :
          Call.ownerCount (split reference).2 ∈ familyCalls memory := by
        simp [asked]
      exact absurd member (ownerCount_notMem_familyCalls memory _)
  | ok family =>
      rw [found] at asked
      obtain ⟨rest, calls, once⟩ :=
        session.calls_loading_of_isBare bare server
          (past ++ familyCalls memory) family
      simp only [calls] at asked
      -- The count occurs once, so it stands in one place of the calls.
      obtain ⟨rfl, -, rfl⟩ :=
        (List.append_cons_inj_of_notMem
          (ownerCount_notMem_familyCalls memory _) once).1 asked
      exact ⟨family, rfl, rfl, calls⟩

/--
Where a name without an owner turns out to have several, the count is the
last call, and the tables stay.
-/
theorem table_of_several
    (bare : IsBare reference) {before others : List Call} {owners : Int64}
    (asked :
      ((session.table reference).outcome server memory past).calls =
        before ++ .ownerCount (split reference).2 :: others)
    (counted :
      Loader.ownersIn (split reference).2
          (server (past ++ before) (.ownerCount (split reference).2)) =
        .ok owners)
    (several : 1 < owners) :
    ((session.table reference).outcome server memory past).result =
        .error (.ambiguousName (split reference).2 owners) ∧
      others = [] ∧
      (∀ call ∈ before, call = .version) ∧
      ((session.table reference).outcome server memory past).memory.tables =
        memory.tables := by
  cases known : memory.find? (session.key reference) with
  | some table =>
      rw [outcome_table_of_find?_some session reference known] at asked
      cases before <;> cases asked
  | none =>
      rw [outcome_table_of_find?_none session reference known] at asked ⊢
      obtain ⟨family, found, rfl, calls⟩ :=
        session.exists_family_of_asked bare asked
      have ends :
          session.loading reference server (past ++ familyCalls memory)
              family =
            ⟨.error (.ambiguousName (split reference).2 owners), (),
              [.ownerCount (split reference).2]⟩ :=
        Loader.outcome_load_of_several family session.defaultOwner bare
          counted several
      have failed :
          ((session.fetchTable reference).outcome
              server memory past).result =
            .error (.ambiguousName (split reference).2 owners) := by
        rw [result_fetchTable, found]
        exact congrArg Outcome.result ends
      rw [ends] at calls
      refine ⟨failed, (List.cons.inj calls).2.symm, ?_, ?_⟩
      · intro call member
        exact eq_version_of_mem_familyCalls member
      · rw [tables_fetchTable, failed]

end Session

/-! ## Counting in a history -/

variable {Cache : Type} [TableCache Cache]

namespace Operation

open TableName

/--
An operation that loads a table for a name without an owner, of which nothing
is remembered then, and in the course of it counts one owner at most.
-/
structure ChecksOwners (server : Server) (session : Session Cache)
    (stage : Stage Cache) (operation : Operation) (reference : Text)
    (table : Option Table) : Prop where
  loads : operation.loads? = some reference
  bare : IsBare reference
  unknown :
    (operation.drop session stage.memory).find?
      (session.key reference) = none
  loaded :
    ((session.fetchTable reference).outcome server
      (operation.drop session stage.memory) stage.past).result = .ok table
  counted :
    ∃ owners before others,
      (operation.outcome server session stage).calls =
          before ++ .ownerCount (split reference).2 :: others ∧
        Loader.ownersIn (split reference).2
            (server (stage.past ++ before)
              (.ownerCount (split reference).2)) =
          .ok owners ∧
        ¬ 1 < owners

variable {server : Server} {session : Session Cache} {operation : Operation}
  {stage : Stage Cache}

/--
An operation that loads a name without an owner checks its owners, unless it
fails.
-/
theorem checksOwners_of_ok
    {reference : Text} (loads : operation.loads? = some reference)
    (bare : IsBare reference)
    (unknown :
      (operation.drop session stage.memory).find?
        (session.key reference) = none)
    {table : Option Table}
    (loaded :
      ((session.fetchTable reference).outcome server
        (operation.drop session stage.memory) stage.past).result =
          .ok table) :
    operation.ChecksOwners server session stage reference table := by
  obtain ⟨owners, before, others, asked, counted, single⟩ :=
    session.owners_of_fetchTable_ok bare loaded
  obtain ⟨concluding, calls⟩ :=
    ((session.table reference).outcome server
      (operation.drop session stage.memory) stage.past).exists_calls_andThen
        fun table left calls =>
          (operation.conclude server (stage.past ++ calls)
            table).withMemory left
  rw [← outcome_of_loads?_some loads,
    Session.outcome_table_of_find?_none session reference unknown,
    asked] at calls
  refine ⟨loads, bare, unknown, loaded, owners, before, others ++ concluding,
    ?_, counted, single⟩
  rw [calls, List.append_assoc, List.cons_append]

/--
What is remembered of a name without an owner was loaded by an operation that
checked the owners of that name, and was not dropped since.
-/
theorem exists_checksOwners
    (operations : List Operation) {reference : Text}
    (bare : IsBare reference) {table : Option Table}
    (remembered :
      (Stage.after server session operations).memory.find?
        (session.key reference) = some table) :
    ∃ earlier operation later counted,
      operations = earlier ++ operation :: later ∧
        operation.ChecksOwners server session
          (Stage.after server session earlier) counted table ∧
        Text.upper (split counted).2 = Text.upper (split reference).2 ∧
        (Stage.after server session
            (earlier ++ [operation])).memory.find?
          (session.key reference) = some table ∧
        ∀ other ∈ later, ¬ other.Forgets session (session.key reference) := by
  induction operations using List.reverseRecOn with
  | nil => simp at remembered
  | append_singleton operations operation ih =>
      have afterwards := remembered
      rw [Stage.after_concat] at remembered
      rcases operation.find?_outcome remembered with
        ⟨before, keeps⟩ | ⟨counted, loads, keys, unknown, loaded⟩
      · obtain ⟨earlier, checking, later, counted, shape, checks, names,
          left, kept⟩ := ih before
        refine ⟨earlier, checking, later ++ [operation], counted, ?_, checks,
          names, left, ?_⟩
        · rw [shape, List.append_assoc, List.cons_append]
        · intro other member
          rcases List.mem_append.1 member with member | member
          · exact kept other member
          · rw [List.mem_singleton.1 member]
            exact keeps
      · obtain ⟨bares, -, names⟩ :=
          (session.key_eq_iff counted reference).1 keys
        rw [← keys] at unknown
        refine ⟨operations, operation, [], counted, rfl, ?_, names,
          afterwards, ?_⟩
        · exact checksOwners_of_ok loads (bares.2 bare) unknown loaded
        · intro other member
          cases member

/-! ## References with an owner -/

/--
An operation that loads a reference with an owner leaves no table under a
bare name.
-/
theorem find?_bare_of_qualified
    {qualified reference : Text}
    (loads : operation.loads? = some qualified)
    (named : ¬ IsBare qualified) (bare : IsBare reference)
    {table : Option Table}
    (remembered :
      (operation.outcome server session stage).memory.find?
        (session.key reference) = some table) :
    stage.memory.find? (session.key reference) = some table := by
  rcases operation.find?_outcome remembered with
    ⟨before, -⟩ | ⟨loaded, loads', keys, -, -⟩
  · exact before
  · rw [loads] at loads'
    cases loads'
    have bares := ((session.key_eq_iff qualified reference).1 keys).1
    exact absurd (bares.2 bare) named

/--
An operation that loads a reference with an owner replies without regard to
what is remembered of a bare name.
-/
theorem outcome_of_qualified
    {qualified reference : Text}
    (loads : operation.loads? = some qualified)
    (named : ¬ IsBare qualified) (bare : IsBare reference)
    {other : Memory Cache} (family : other.family = stage.memory.family)
    (entries :
      ∀ key, key ≠ session.key reference →
        other.find? key = stage.memory.find? key) :
    (operation.outcome server session ⟨other, stage.past⟩).result =
        (operation.outcome server session stage).result ∧
      (operation.outcome server session ⟨other, stage.past⟩).calls =
        (operation.outcome server session stage).calls := by
  have apart : session.key qualified ≠ session.key reference := by
    intro keys
    have bares := ((session.key_eq_iff qualified reference).1 keys).1
    exact named (bares.2 bare)
  have entry :
      (operation.drop session other).find? (session.key qualified) =
        (operation.drop session stage.memory).find?
          (session.key qualified) :=
    find?_drop_congr (entries _ apart)
  have same :=
    @Session.table_congr _ session qualified server _ stage.past _ _ entry
      (family_drop_congr family)
  rw [outcome_of_loads?_some loads, outcome_of_loads?_some loads]
  generalize (session.table qualified).outcome server
    (operation.drop session stage.memory) stage.past = loading at same ⊢
  generalize (session.table qualified).outcome server
    (operation.drop session other) stage.past = loading' at same ⊢
  obtain ⟨result, left, calls⟩ := loading
  obtain ⟨result', left', calls'⟩ := loading'
  obtain ⟨rfl, rfl⟩ : result' = result ∧ calls' = calls := same
  cases result' with
  | error error => exact ⟨rfl, rfl⟩
  | ok table => exact ⟨rfl, rfl⟩

end Operation

/-! ## The check -/

/--
A name without an owner is given a table only after a count of its owners, in
the load that produced what is given, told one at most, and no reference with
an owner creates or is given the entry of such a name.  Where the count tells
more, it is the end of the load.
-/
theorem Session.owners_checked
    (server : Server) (session : Session Cache) :
    (∀ (operations : List Operation) (reference : Text)
        (table : Option Table),
      let stage := Stage.after server session operations
      TableName.IsBare reference →
      ((session.table reference).outcome
        server stage.memory stage.past).result = .ok table →
      ∃ earlier operation later counted,
        operations ++ [.load reference] = earlier ++ operation :: later ∧
          operation.ChecksOwners server session
            (Stage.after server session earlier) counted table ∧
          Text.upper (TableName.split counted).2 =
            Text.upper (TableName.split reference).2 ∧
          (let left := Stage.after server session (earlier ++ [operation])
          left.memory.find? (session.key reference) = some table ∨
            left.memory.find? (session.key reference) = none) ∧
          ∀ other ∈ later,
            ¬ other.Forgets session (session.key reference)) ∧
    (∀ (operation : Operation) (qualified reference : Text)
        (stage : Stage Cache),
      let outcome := operation.outcome server session stage
      operation.loads? = some qualified →
      ¬ TableName.IsBare qualified →
      TableName.IsBare reference →
      (∀ table,
        outcome.memory.find? (session.key reference) = some table →
          stage.memory.find? (session.key reference) =
            some table) ∧
      ∀ other : Memory Cache,
        other.family = stage.memory.family →
        (∀ key, key ≠ session.key reference →
          other.find? key = stage.memory.find? key) →
        let elsewhere :=
          operation.outcome server session ⟨other, stage.past⟩
        elsewhere.result = outcome.result ∧
          elsewhere.calls = outcome.calls) ∧
    ∀ (memory : Memory Cache) (past : List Call) (reference : Text)
        (before others : List Call) (owners : Int64),
      let outcome := (session.table reference).outcome server memory past
      let name := (TableName.split reference).2
      TableName.IsBare reference →
      outcome.calls = before ++ .ownerCount name :: others →
      Loader.ownersIn name (server (past ++ before) (.ownerCount name)) =
        .ok owners →
      1 < owners →
      outcome.result = .error (.ambiguousName name owners) ∧
        others = [] ∧
        (∀ call ∈ before, call = .version) ∧
        outcome.memory.tables = memory.tables := by
  refine ⟨?_, ?_, ?_⟩
  · intro operations reference table stage bare given
    cases known : stage.memory.find? (session.key reference) with
    | some found =>
        rw [outcome_table_of_find?_some session reference known] at given
        cases given
        obtain ⟨earlier, operation, later, counted, shape, checks, names,
          left, kept⟩ := Operation.exists_checksOwners operations bare known
        refine ⟨earlier, operation, later ++ [.load reference], counted, ?_,
          checks, names, .inl left, ?_⟩
        · rw [shape, List.append_assoc, List.cons_append]
        · intro other member
          rcases List.mem_append.1 member with member | member
          · exact kept other member
          · rw [List.mem_singleton.1 member]
            exact not_false
    | none =>
        have left := find?_table_of_ok session reference given
        rw [outcome_table_of_find?_none session reference known] at given
        have checks :
            (Operation.load reference).ChecksOwners server session stage
              reference table := by
          refine Operation.checksOwners_of_ok rfl bare ?_ given
          exact known
        have same :
            (Stage.after server session
                (operations ++ [.load reference])).memory =
              ((session.table reference).outcome
                server stage.memory stage.past).memory := by
          rw [Stage.after_concat]
          exact Operation.memory_of_loads?_some rfl
        rw [← same] at left
        exact ⟨operations, .load reference, [], reference, rfl, checks, rfl,
          left, nofun⟩
  · intro operation qualified reference stage outcome loads named bare
    constructor
    · intro table remembered
      exact Operation.find?_bare_of_qualified loads named bare remembered
    · intro other family entries
      exact Operation.outcome_of_qualified loads named bare family entries
  · intro memory past reference before others owners outcome name bare asked
      counted several
    exact session.table_of_several bare asked counted several

/--
A server without tables that tells of one owner at first, and of two after
four calls.
-/
def serverOfOneThenTwo : Server := fun past call =>
  match call.query with
  | .ownerCount =>
      .ok [[("cnt".toList, .integer (if past.length < 4 then 1 else 2))]]
  | _ => .ok []

/--
A bare name keeps the reply that was given when it had one owner, a qualified
name loaded meanwhile notwithstanding, and is ambiguous to a session that
begins when it has two.
-/
theorem users_checked_once :
    let session : Session TableEntries := ⟨"dbo".toList, some .v12, 1024⟩
    let operations : List Operation :=
      [.load "users".toList, .load "dbo.Users".toList]
    let remembering : Stage TableEntries :=
      ⟨⟨[("USERS".toList, none)], some .v12⟩, []⟩
    let loading :=
      (session.table "USERS".toList).outcome serverOfOneThenTwo
        session.start (List.replicate 4 .version)
    (∃ earlier operation later counted table,
      operations ++ [.load "[USERS]".toList] =
          earlier ++ operation :: later ∧
        operation.ChecksOwners serverOfOneThenTwo session
          (Stage.after serverOfOneThenTwo session earlier) counted table ∧
        ∀ other ∈ later,
          ¬ other.Forgets session (session.key "[USERS]".toList)) ∧
    remembering.memory.find? "USERS".toList = some none ∧
    ((Operation.load "dbo.Users".toList).outcome serverOfOneThenTwo session
        ⟨session.start, []⟩).calls =
      ((Operation.load "dbo.Users".toList).outcome serverOfOneThenTwo session
        remembering).calls ∧
    loading.result = .error (.ambiguousName "USERS".toList 2) ∧
    loading.memory.tables = [] := by
  intro session operations remembering loading
  obtain ⟨given, qualified, several⟩ :=
    session.owners_checked serverOfOneThenTwo
  obtain ⟨uncreated, unserved⟩ :=
    qualified (.load "dbo.Users".toList) "dbo.Users".toList "users".toList
      remembering rfl (by decide) (by decide)
  refine ⟨?_, uncreated none rfl, ?_, ?_⟩
  · obtain ⟨table, known⟩ :
        ∃ table,
          (Stage.after serverOfOneThenTwo session
              operations).memory.find?
            (session.key "[USERS]".toList) = some table :=
      Option.isSome_iff_exists.1 (by decide +kernel)
    have loaded :
        ((session.table "[USERS]".toList).outcome serverOfOneThenTwo
          (Stage.after serverOfOneThenTwo session operations).memory
          (Stage.after serverOfOneThenTwo session operations).past).result =
            .ok table := by
      rw [session.outcome_table_of_find?_some "[USERS]".toList known]
    obtain ⟨earlier, operation, later, counted, shape, checks, -, -, kept⟩ :=
      given operations "[USERS]".toList table (by decide) loaded
    exact ⟨earlier, operation, later, counted, table, shape, checks, kept⟩
  · refine (unserved session.start rfl ?_).2
    intro key other
    have different : key ≠ "USERS".toList := other
    change none = List.lookup key [("USERS".toList, none)]
    rw [List.lookup_cons, beq_false_of_ne different]
    rfl
  · have ambiguous :=
      several session.start (List.replicate 4 .version) "USERS".toList [] []
        2 (by decide) rfl rfl (by decide)
    exact ⟨ambiguous.1, ambiguous.2.2.2⟩

end SqlAnywhere
